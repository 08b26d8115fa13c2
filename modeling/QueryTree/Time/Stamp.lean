import QueryTree.Time.Instant

/-! Time stamps as RFC 3339 text. They are read with any offset and written in UTC. -/
namespace QueryTree.Time

def digit? (c : Char) : Option Nat :=
  if '0' ≤ c ∧ c ≤ '9' then some (c.toNat - '0'.toNat) else none

def digits? : (count read : Nat) → List Char → Option (Nat × List Char)
  | 0, read, rest => some (read, rest)
  | count + 1, read, c :: rest => do digits? count (10 * read + (← digit? c)) rest
  | _ + 1, _, [] => none

def mark? (mark : Char) : List Char → Option (List Char)
  | c :: rest => if c = mark then some rest else none
  | [] => none

def fraction? (text : List Char) : Option (Nat × List Char) :=
  let digits := text.takeWhile fun c => (digit? c).isSome
  let rest := text.dropWhile fun c => (digit? c).isSome
  if digits = [] then none
  else do
    let (nano, _) ← digits? 9 0 (digits.take 9 ++ List.replicate (9 - digits.length) '0')
    some (nano, rest)

def offset? : List Char → Option (Int × List Char)
  | [] => none
  | c :: rest =>
    if c = 'Z' ∨ c = 'z' then some (0, rest)
    else if c = '+' ∨ c = '-' ∨ c = '−' then do
      let (hours, rest) ← digits? 2 0 rest
      let rest ← mark? ':' rest
      let (minutes, rest) ← digits? 2 0 rest
      if 23 < hours ∨ 59 < minutes then none
      else
        let size : Int := 60 * (60 * hours + minutes)
        some (if c = '+' then size else -size, rest)
    else none

def Instant.ofText? (text : List Char) : Option Instant := do
  let (year, rest) ← digits? 4 0 text
  let rest ← mark? '-' rest
  let (month, rest) ← digits? 2 0 rest
  let rest ← mark? '-' rest
  let (day, rest) ← digits? 2 0 rest
  let rest ← mark? 'T' rest <|> mark? 't' rest <|> mark? ' ' rest
  let (hour, rest) ← digits? 2 0 rest
  let rest ← mark? ':' rest
  let (minute, rest) ← digits? 2 0 rest
  let rest ← mark? ':' rest
  let (second, rest) ← digits? 2 0 rest
  let (nano, rest) ← match mark? '.' rest with
    | some rest => fraction? rest
    | none => some (0, rest)
  let (offset, rest) ← offset? rest
  let date : Date := ⟨year, month, day⟩
  if rest = [] ∧ date.Valid ∧ hour ≤ 23 ∧ minute ≤ 59 ∧ second ≤ 60 then
    let minutes : Int := 24 * 60 * date.dayNumber + 60 * hour + minute
    if second = 60 then Instant.ofCounts? (60 * minutes + 59 - offset) (1000000000 + nano)
    else Instant.ofCounts? (60 * minutes + second - offset) nano
  else none

def padded (width n : Nat) : List Char :=
  let digits := Nat.toDigits 10 n
  List.replicate (width - digits.length) '0' ++ digits

def yearText (year : Int) : List Char :=
  if 0 ≤ year ∧ year ≤ 9999 then padded 4 year.toNat
  else (if year < 0 then '-' else '+') :: padded 4 year.natAbs

def fractionText (nano : Nat) : List Char :=
  if nano = 0 then []
  else if nano % 1000000 = 0 then '.' :: padded 3 (nano / 1000000)
  else if nano % 1000 = 0 then '.' :: padded 6 (nano / 1000)
  else '.' :: padded 9 nano

def Instant.chars (t : Instant) : List Char :=
  let date := t.date
  let ofDay := t.secondOfDay
  let leap := t.nano / 1000000000
  yearText date.year ++ '-' :: padded 2 date.month ++ '-' :: padded 2 date.day ++
    'T' :: padded 2 (ofDay / 3600) ++ ':' :: padded 2 (ofDay / 60 % 60) ++
    ':' :: padded 2 (ofDay % 60 + leap) ++ fractionText (t.nano % 1000000000) ++
    ['+', '0', '0', ':', '0', '0']

def Instant.text (t : Instant) : String := String.ofList t.chars

end QueryTree.Time
