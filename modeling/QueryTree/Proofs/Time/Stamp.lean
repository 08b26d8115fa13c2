import QueryTree.Proofs.Time.Calendar
import QueryTree.Time.Stamp

/-! A time stamp of the years 0 to 9999 is read back from its text. -/
namespace QueryTree.Time

theorem digitRead {c : Char} (digit : c.isDigit = true) : digit? c = some (c.toNat - '0'.toNat) := by
  simp only [Char.isDigit, Bool.and_eq_true, decide_eq_true_eq] at digit
  exact if_pos digit

theorem digitsRead {digits : List Char} (all : ∀ c ∈ digits, c.isDigit = true) (read : Nat)
    (rest : List Char) :
    digits? digits.length read (digits ++ rest) = some (Nat.ofDigitChars 10 digits read, rest) := by
  induction digits generalizing read with
  | nil => rfl
  | cons c digits ih =>
    have first := digitRead (all c List.mem_cons_self)
    have later := ih (fun d inside => all d (List.mem_cons_of_mem _ inside))
    rw [List.length_cons, List.cons_append, digits?, first]
    simp only [Option.bind_eq_bind, Option.bind_some, later, Nat.ofDigitChars_cons]

theorem paddedDigits (width n : Nat) : ∀ c ∈ padded width n, c.isDigit = true := by
  intro c inside
  rcases List.mem_append.mp inside with zero | digit
  · rw [(List.mem_replicate.mp zero).2]
    rfl
  · exact Nat.isDigit_of_mem_toDigits (by omega) (by omega) digit

theorem paddedLength {width n : Nat} (fits : (Nat.toDigits 10 n).length ≤ width) :
    (padded width n).length = width := by
  simp only [padded, List.length_append, List.length_replicate]
  omega

theorem paddedValue (width n : Nat) : Nat.ofDigitChars 10 (padded width n) 0 = n := by
  rw [padded, Nat.ofDigitChars_append, Nat.ofDigitChars_replicate_zero, Nat.mul_zero,
    Nat.ofDigitChars_ten_toDigits]

theorem paddedRead {width n : Nat} (fits : (Nat.toDigits 10 n).length ≤ width)
    (rest : List Char) : digits? width 0 (padded width n ++ rest) = some (n, rest) := by
  have read := digitsRead (paddedDigits width n) 0 rest
  rwa [paddedLength fits, paddedValue] at read

theorem digitsFit {width bound n : Nat} (positive : 0 < width) (power : Nat.pow 10 width = bound)
    (fits : n < bound) : (Nat.toDigits 10 n).length ≤ width := by
  subst power
  exact (Nat.length_toDigits_le_iff (by omega) positive).mpr fits

theorem twoDigits {n : Nat} (fits : n < 100) : (Nat.toDigits 10 n).length ≤ 2 :=
  digitsFit (by omega) rfl fits

theorem yearRead {year : Int} (low : 0 ≤ year) (high : year ≤ 9999) (rest : List Char) :
    digits? 4 0 (yearText year ++ rest) = some (year.toNat, rest) := by
  have fits : year.toNat < 10000 := by omega
  rw [yearText, if_pos ⟨low, high⟩]
  exact paddedRead (digitsFit (by omega) rfl fits) rest

theorem isDigitRead {c : Char} (digit : c.isDigit = true) : (digit? c).isSome = true := by
  rw [digitRead digit]
  rfl

theorem nineDigitsRead {width n : Nat} (short : width ≤ 9)
    (fits : (Nat.toDigits 10 n).length ≤ width) :
    digits? 9 0 (padded width n ++ List.replicate (9 - width) '0') =
      some (Nat.ofDigitChars 10 (List.replicate (9 - width) '0') n, []) := by
  have all : ∀ c ∈ padded width n ++ List.replicate (9 - width) '0', c.isDigit = true := by
    intro c inside
    rcases List.mem_append.mp inside with digit | zero
    · exact paddedDigits width n c digit
    · rw [(List.mem_replicate.mp zero).2]
      rfl
  have nine : (padded width n ++ List.replicate (9 - width) '0').length = 9 := by
    rw [List.length_append, List.length_replicate, paddedLength fits]
    omega
  have read := digitsRead all 0 []
  rwa [nine, List.append_nil, Nat.ofDigitChars_append, paddedValue] at read

theorem fractionRead {width n : Nat} (positive : 0 < width) (short : width ≤ 9)
    (fits : (Nat.toDigits 10 n).length ≤ width) (rest : List Char) :
    fraction? (padded width n ++ '+' :: rest) =
      some (Nat.ofDigitChars 10 (List.replicate (9 - width) '0') n, '+' :: rest) := by
  have digits : ∀ c ∈ padded width n, (digit? c).isSome = true := fun c inside =>
    isDigitRead (paddedDigits width n c inside)
  have taken : (padded width n ++ '+' :: rest).takeWhile (fun c => (digit? c).isSome) =
      padded width n := by
    rw [List.takeWhile_append_of_pos digits]
    simp [digit?]
  have dropped : (padded width n ++ '+' :: rest).dropWhile (fun c => (digit? c).isSome) =
      '+' :: rest := by
    rw [List.dropWhile_append_of_pos digits]
    simp [digit?]
  have length := paddedLength fits
  have filled : padded width n ≠ [] := by
    intro empty
    rw [empty] at length
    exact absurd length (Nat.ne_of_lt positive)
  have whole : (padded width n).take 9 = padded width n := List.take_of_length_le (by omega)
  unfold fraction?
  simp only [taken, dropped, if_neg filled, whole, length, nineDigitsRead short fits,
    Option.bind_eq_bind, Option.bind_some]

theorem fractionTextNone (rest : List Char) : fractionText 0 ++ rest = rest := rfl

theorem fractionAbsent (rest : List Char) : mark? '.' ('+' :: rest) = none := rfl

theorem fractionTextRead {nano : Nat} (positive : nano ≠ 0) (fits : nano < 1000000000)
    (rest : List Char) :
    ∃ digits, mark? '.' (fractionText nano ++ '+' :: rest) = some digits ∧
      fraction? digits = some (nano, '+' :: rest) := by
  unfold fractionText
  rw [if_neg positive]
  split
  · have small : nano / 1000000 < 1000 := by omega
    have three : (Nat.toDigits 10 (nano / 1000000)).length ≤ 3 := digitsFit (by omega) rfl small
    have read := fractionRead (by omega) (by omega) three rest
    rw [Nat.ofDigitChars_replicate_zero] at read
    refine ⟨_, rfl, read.trans ?_⟩
    congr 2
    omega
  · split
    · have small : nano / 1000 < 1000000 := by omega
      have six : (Nat.toDigits 10 (nano / 1000)).length ≤ 6 := digitsFit (by omega) rfl small
      have read := fractionRead (by omega) (by omega) six rest
      rw [Nat.ofDigitChars_replicate_zero] at read
      refine ⟨_, rfl, read.trans ?_⟩
      congr 2
      omega
    · exact ⟨_, rfl, fractionRead (by omega) (by omega) (digitsFit (by omega) rfl fits) rest⟩

theorem offsetRead : offset? ['+', '0', '0', ':', '0', '0'] = some (0, []) := rfl

theorem markRead (mark : Char) (rest : List Char) : mark? mark (mark :: rest) = some rest := by
  simp [mark?]

theorem dateEndRead (rest : List Char) :
    (mark? 'T' ('T' :: rest) <|> mark? 't' ('T' :: rest) <|> mark? ' ' ('T' :: rest)) = some rest := by
  rw [markRead]
  rfl

theorem bindRead {α β : Type} {x : Option α} {a : α} {next : α → Option β} {b : Option β}
    (read : x = some a) (later : next a = b) : (x >>= next) = b := by
  rw [read]
  exact later

theorem countsRead (t : Instant) : Instant.ofCounts? t.second t.nano = some t := by
  rw [Instant.ofCounts?, dif_pos t.inSecond]

theorem secondsRead (t : Instant) :
    (if t.secondOfDay % 60 + t.nano / 1000000000 = 60 then
      Instant.ofCounts? (60 * (24 * 60 * (t.second / 86400) + 60 * (t.secondOfDay / 3600 : Nat) +
        (t.secondOfDay / 60 % 60 : Nat)) + 59 - 0) (1000000000 + t.nano % 1000000000)
    else
      Instant.ofCounts? (60 * (24 * 60 * (t.second / 86400) + 60 * (t.secondOfDay / 3600 : Nat) +
        (t.secondOfDay / 60 % 60 : Nat)) + (t.secondOfDay % 60 + t.nano / 1000000000 : Nat) - 0)
        (t.nano % 1000000000)) = some t := by
  have inSecond := t.inSecond
  have ofDay : (t.secondOfDay : Int) = t.second % 86400 := by
    unfold Instant.secondOfDay
    omega
  rw [← countsRead t]
  -- The sixtieth second is the one that goes on past its nanoseconds.
  split
  · congr 1 <;> omega
  · congr 1 <;> omega

theorem daysInMonthBound (year : Int) (month : Nat) : daysInMonth year month ≤ 31 := by
  unfold daysInMonth
  split <;> split <;> omega

theorem secondOfDayBound (t : Instant) : t.secondOfDay < 86400 := by
  unfold Instant.secondOfDay
  omega

theorem stampRead (t : Instant) (low : 0 ≤ t.date.year) (high : t.date.year ≤ 9999) :
    Instant.ofText? t.chars = some t := by
  have valid : t.date.Valid := ofDayNumberValid (t.second / 86400)
  have number : t.date.dayNumber = t.second / 86400 := ofDayNumberBack (t.second / 86400)
  have date : (⟨t.date.year.toNat, t.date.month, t.date.day⟩ : Date) = t.date := by
    rw [Int.toNat_of_nonneg low]
  have months := valid.1
  have days := valid.2.2
  have dayBound := daysInMonthBound t.date.year t.date.month
  have ofDay := secondOfDayBound t
  have inSecond := t.inSecond
  have hours : t.secondOfDay / 3600 ≤ 23 := by omega
  have minutes : t.secondOfDay / 60 % 60 ≤ 59 := by omega
  have seconds : t.secondOfDay % 60 + t.nano / 1000000000 ≤ 60 := by omega
  have whole := secondsRead t
  unfold Instant.chars Instant.ofText?
  simp only [List.append_assoc, List.cons_append]
  refine bindRead (yearRead low high _) ?_
  refine bindRead (markRead '-' _) ?_
  refine bindRead (paddedRead (twoDigits (by omega)) _) ?_
  refine bindRead (markRead '-' _) ?_
  refine bindRead (paddedRead (twoDigits (by omega)) _) ?_
  refine bindRead (dateEndRead _) ?_
  refine bindRead (paddedRead (twoDigits (by omega)) _) ?_
  refine bindRead (markRead ':' _) ?_
  refine bindRead (paddedRead (twoDigits (by omega)) _) ?_
  refine bindRead (markRead ':' _) ?_
  refine bindRead (paddedRead (twoDigits (by omega)) _) ?_
  dsimp only
  by_cases none : t.nano % 1000000000 = 0
  · rw [none] at whole
    rw [none, fractionTextNone, fractionAbsent]
    refine bindRead rfl ?_
    refine bindRead offsetRead ?_
    dsimp only
    rw [date, number, if_pos ⟨rfl, valid, hours, minutes, seconds⟩]
    exact whole
  · have fits : t.nano % 1000000000 < 1000000000 := Nat.mod_lt _ (by omega)
    obtain ⟨digits, marked, read⟩ := fractionTextRead none fits ['0', '0', ':', '0', '0']
    rw [marked]
    refine bindRead read ?_
    refine bindRead offsetRead ?_
    dsimp only
    rw [date, number, if_pos ⟨rfl, valid, hours, minutes, seconds⟩]
    exact whole

theorem yearUnread {year : Int} (apart : ¬ (0 ≤ year ∧ year ≤ 9999)) (rest : List Char) :
    digits? 4 0 (yearText year ++ rest) = none := by
  rw [yearText, if_neg apart]
  split <;> rfl

theorem stampUnread (t : Instant) (apart : ¬ (0 ≤ t.date.year ∧ t.date.year ≤ 9999)) :
    Instant.ofText? t.chars = none := by
  unfold Instant.chars Instant.ofText?
  simp only [List.append_assoc, List.cons_append]
  rw [yearUnread apart]
  rfl

end QueryTree.Time
