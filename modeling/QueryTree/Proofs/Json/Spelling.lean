import QueryTree.Proofs.Json.Holds
import QueryTree.Proofs.Text.Cancel

/-! Written JSON is read back token by token. The text on one line and the indented one have the same
tokens, since blanks between tokens are passed over. -/
namespace QueryTree.Json

open Text (StopsAt)

def piece (c : Char) : Piece :=
  if c.toNat < 0x20 ∧ c ≠ '\x08' ∧ c ≠ '\x0c' ∧ c ≠ '\n' ∧ c ≠ '\r' ∧ c ≠ '\t' then .unit c.toNat
  else .char c

def RawText.ofChars (text : List Char) : RawText := ⟨text.map piece, none⟩

theorem unitOfCode : ∀ n < 0x20,
    unit? '0' '0' (Nat.digitChar (n / 16)) (Nat.digitChar (n % 16)) = some n := by
  decide

theorem unitNotLacking (a b c d : Char) (rest : List Char) :
    lacksUnit (a :: b :: c :: d :: rest) = false := by
  have := a.utf8Size_pos
  have := b.utf8Size_pos
  have := c.utf8Size_pos
  have := d.utf8Size_pos
  simp only [lacksUnit, List.take, Text.byteLength, decide_eq_false_iff_not]
  omega

theorem splitEscaped (c : Char) (rest : List Char) :
    splitText (escapeChar c ++ rest) =
      (⟨piece c :: (splitText rest).1.pieces, (splitText rest).1.fault⟩, (splitText rest).2) := by
  unfold escapeChar
  iterate 7
    split
    · rename_i same
      subst same
      rfl
  split
  · rename_i control
    have code := unitOfCode c.toNat control
    have single : piece c = .unit c.toNat := by simp_all [piece]
    simp only [List.cons_append, List.nil_append]
    rw [splitText]
    simp [unitNotLacking, code, single]
  · rename_i control
    have single : piece c = .char c := by simp [piece, control]
    rw [List.singleton_append, splitText.eq_def]
    split <;> simp_all

theorem splitWritten (text rest : List Char) :
    splitText (text.flatMap escapeChar ++ '"' :: rest) = (RawText.ofChars text, rest) := by
  induction text with
  | nil => rfl
  | cons c text ih =>
    rw [List.flatMap_cons, List.append_assoc, splitEscaped, ih]
    rfl

theorem readPiecesWritten (text : List Char) : readPieces none (text.map piece) = .ok text := by
  induction text with
  | nil => rfl
  | cons c text ih =>
    rw [List.map_cons, piece]
    split
    · rename_i control
      have notTrailing : isTrailing c.toNat = false := by
        simp only [isTrailing, Bool.and_eq_false_iff, decide_eq_false_iff_not]
        omega
      have notLeading : isLeading c.toNat = false := by
        simp only [isLeading, Bool.and_eq_false_iff, decide_eq_false_iff_not]
        omega
      rw [readPieces.eq_def]
      simp only [notTrailing, notLeading, ih, Bool.false_eq_true, if_false, bind, Except.bind,
        Char.ofNat_toNat]
      rfl
    · simp only [readPieces, ih, bind, Except.bind]
      rfl

@[simp] theorem readWritten (s : String) : (RawText.ofChars s.toList).read = .ok s := by
  rw [RawText.read, RawText.ofChars, readPiecesWritten]
  simp [Except.map]

def EndsNumber (rest : List Char) : Prop :=
  StopsAt (fun c => c = ',' || c = ']' || c = '\x7d' || c = '\n') rest

def Numeral.ofInteger (n : Int) : Numeral := ⟨n < 0, Nat.toDigits 10 n.natAbs, none, none⟩

theorem digitsWritten (n : Nat) : ∀ c ∈ Nat.toDigits 10 n, isDigit c = true := by
  intro c inside
  have digit := Nat.isDigit_of_mem_toDigits (by omega) (by omega) inside
  simp only [Char.isDigit, Bool.and_eq_true, decide_eq_true_eq] at digit
  simp only [isDigit, Bool.and_eq_true, decide_eq_true_eq]
  exact digit

theorem digitCharZero : ∀ n < 10, n.digitChar = '0' → n = 0 := by decide

theorem noLeadingZero (n : Nat) (positive : 0 < n) : (Nat.toDigits 10 n).head? ≠ some '0' := by
  induction n using Nat.strongRecOn with
  | ind n ih =>
    by_cases small : n < 10
    · rw [Nat.toDigits_of_lt_base small]
      intro zero
      have := digitCharZero n small (Option.some.inj zero)
      omega
    · rw [Nat.toDigits_of_base_le (by omega) (by omega), List.head?_append]
      have later := ih (n / 10) (by omega) (by omega)
      cases digits : (Nat.toDigits 10 (n / 10)).head? with
      | none => exact absurd (List.head?_eq_none_iff.mp digits) Nat.toDigits_ne_nil
      | some d => rwa [digits] at later

theorem digitsValueWritten (n : Nat) : digitsValue (Nat.toDigits 10 n) = n := by
  have read := Nat.ofDigitChars_ten_toDigits (n := n)
  unfold Nat.ofDigitChars at read
  exact read

def endsDigits (c : Char) : Bool := !(isDigit c || c = '.' || c = 'e' || c = 'E')

theorem endsNumberDigits {rest : List Char} (ends : EndsNumber rest) : StopsAt endsDigits rest := by
  intro c first
  have stop := ends c first
  simp only [Bool.or_eq_true, decide_eq_true_eq] at stop
  rcases stop with ((rfl | rfl) | rfl) | rfl <;> rfl

theorem digitsSplit {whole rest : List Char} (decimal : ∀ c ∈ whole, isDigit c = true)
    (ends : StopsAt endsDigits rest) :
    (whole ++ rest).takeWhile isDigit = whole ∧ (whole ++ rest).dropWhile isDigit = rest := by
  rw [List.takeWhile_append_of_pos decimal, List.dropWhile_append_of_pos decimal]
  cases rest with
  | nil => simp
  | cons c rest =>
    have stop := ends c rfl
    have other : isDigit c = false := by
      simp only [endsDigits, Bool.not_eq_true', Bool.or_eq_false_iff] at stop
      exact stop.1.1.1
    simp [other]

theorem exponentAbsent (negative : Bool) (whole : List Char) {rest : List Char}
    (ends : StopsAt endsDigits rest) :
    exponent negative whole none rest = (.number ⟨negative, whole, none, none⟩, rest) := by
  cases rest with
  | nil => rfl
  | cons c rest =>
    have stop := ends c rfl
    simp only [endsDigits, Bool.not_eq_true', Bool.or_eq_false_iff, decide_eq_false_iff_not] at stop
    rw [exponent, if_neg (by simp [stop])]

theorem digitsToken (negative : Bool) {whole rest : List Char} (filled : whole ≠ [])
    (decimal : ∀ c ∈ whole, isDigit c = true) (plain : whole.head? = some '0' → whole = ['0'])
    (ends : StopsAt endsDigits rest) :
    digits negative (whole ++ rest) = (.number ⟨negative, whole, none, none⟩, rest) := by
  obtain ⟨taken, dropped⟩ := digitsSplit decimal ends
  have last := exponentAbsent negative whole ends
  unfold digits
  rw [taken, dropped]
  split
  · exact absurd rfl filled
  · exact absurd (List.cons.inj (plain rfl)).2 (List.cons_ne_nil _ _)
  · split
    · exact absurd (ends '.' rfl) (by decide)
    · exact last

theorem writtenPlain (n : Nat) (zero : (Nat.toDigits 10 n).head? = some '0') :
    Nat.toDigits 10 n = ['0'] := by
  by_cases positive : 0 < n
  · exact absurd zero (noLeadingZero n positive)
  · obtain rfl : n = 0 := by omega
    exact Nat.toDigits_zero 10

theorem writtenToken (negative : Bool) (n : Nat) {rest : List Char} (ends : EndsNumber rest) :
    digits negative (Nat.toDigits 10 n ++ rest) =
      (.number ⟨negative, Nat.toDigits 10 n, none, none⟩, rest) :=
  digitsToken negative Nat.toDigits_ne_nil (digitsWritten n) (writtenPlain n) (endsNumberDigits ends)

theorem tokenDigit {c : Char} (digit : isDigit c = true) (rest : List Char) :
    token c rest = digits false (c :: rest) := by
  unfold token
  split
  case h_12 => rw [if_pos digit]
  all_goals exact absurd digit (by decide)

theorem digitNoSpace {c : Char} (digit : isDigit c = true) : isSpace c = false := by
  rw [Bool.eq_false_iff]
  intro space
  simp only [isSpace, Bool.or_eq_true, decide_eq_true_eq] at space
  rcases space with ((rfl | rfl) | rfl) | rfl <;> contradiction

theorem integerToken (n : Int) {c : Char} {tail rest : List Char} (ends : EndsNumber rest)
    (written : integerText n = c :: tail) :
    isSpace c = false ∧ token c (tail ++ rest) = (.number (.ofInteger n), rest) := by
  unfold integerText at written
  split at written
  · rename_i negative
    obtain ⟨rfl, rfl⟩ := List.cons.inj written
    have read := writtenToken true n.natAbs ends
    exact ⟨by decide, by simpa [token, Numeral.ofInteger, negative] using read⟩
  · rename_i positive
    have digit := digitsWritten n.natAbs c (by rw [written]; exact List.mem_cons_self)
    have read := writtenToken false n.natAbs ends
    refine ⟨digitNoSpace digit, ?_⟩
    rw [tokenDigit digit, ← List.cons_append, ← written, read]
    simp [Numeral.ofInteger, positive]

theorem integerRead {n : Int} (low : -9223372036854775808 ≤ n) (high : n < UInt64.size) :
    (Numeral.ofInteger n).value = .ok (.integer n) := by
  have size := digitsValueWritten n.natAbs
  unfold Numeral.value Numeral.ofInteger
  by_cases negative : n < 0
  · have positive : 0 < n.natAbs := by omega
    have small : n.natAbs ≤ 9223372036854775808 := by omega
    have back : -(n.natAbs : Int) = n := by omega
    rw [if_neg (by simp [negative]), if_pos (by simp [negative, size, positive, small]), size, back]
  · have small : n.natAbs < UInt64.size := by omega
    have back : (n.natAbs : Int) = n := by omega
    rw [if_pos (by simp [negative, size, small]), size, back]

end QueryTree.Json
