import QueryTree.Json.Numeral
import QueryTree.Json.RawText

/-! The tokens of a JSON text. Where no token can be read, a flaw ends the list. -/
namespace QueryTree.Json

inductive Flaw where
  | absent
  | cutWord
  | cutNumber
  | stray
  deriving DecidableEq, Repr

def Flaw.onRead : Flaw → Fault
  | .absent | .cutWord | .cutNumber => .truncated
  | .stray => .malformed

def Flaw.onSkip : Flaw → Fault
  | .absent | .cutWord => .truncated
  | .cutNumber | .stray => .malformed

inductive Token where
  | openArray
  | closeArray
  | openObject
  | closeObject
  | comma
  | colon
  | null
  | bool (b : Bool)
  | number (n : Numeral)
  | text (t : RawText)
  | flaw (f : Flaw)
  deriving DecidableEq, Repr

def isSpace (c : Char) : Bool := c = ' ' || c = '\n' || c = '\t' || c = '\r'

def isDigit (c : Char) : Bool := '0' ≤ c && c ≤ '9'

def word (token : Token) : (letters : List Char) → List Char → Token × List Char
  | [], rest => (token, rest)
  | _ :: _, [] => (.flaw .cutWord, [])
  | l :: letters, c :: rest => if c = l then word token letters rest else (.flaw .stray, [])

def lacksDigit (rest : List Char) : Token × List Char :=
  (.flaw (if rest = [] then .cutNumber else .stray), [])

def exponentSign : List Char → Bool × List Char
  | '-' :: rest => (true, rest)
  | '+' :: rest => (false, rest)
  | rest => (false, rest)

def exponent (negative : Bool) (whole : List Char) (fraction : Option (List Char)) :
    List Char → Token × List Char
  | [] => (.number ⟨negative, whole, fraction, none⟩, [])
  | c :: rest =>
    if c = 'e' ∨ c = 'E' then
      let (down, rest) := exponentSign rest
      match rest.takeWhile isDigit with
      | [] => lacksDigit rest
      | digits => (.number ⟨negative, whole, fraction, some (down, digits)⟩, rest.dropWhile isDigit)
    else (.number ⟨negative, whole, fraction, none⟩, c :: rest)

def digits (negative : Bool) (text : List Char) : Token × List Char :=
  match text.takeWhile isDigit with
  | [] => lacksDigit text
  | '0' :: _ :: _ => (.flaw .stray, [])
  | whole =>
    match text.dropWhile isDigit with
    | '.' :: rest =>
      match rest.takeWhile isDigit with
      | [] => lacksDigit rest
      | fraction => exponent negative whole (some fraction) (rest.dropWhile isDigit)
    | rest => exponent negative whole none rest

def token (c : Char) (rest : List Char) : Token × List Char :=
  match c with
  | '[' => (.openArray, rest)
  | ']' => (.closeArray, rest)
  | '\x7b' => (.openObject, rest)
  | '\x7d' => (.closeObject, rest)
  | ',' => (.comma, rest)
  | ':' => (.colon, rest)
  | '"' => let (text, rest) := splitText rest; (.text text, rest)
  | 'n' => word .null ['u', 'l', 'l'] rest
  | 't' => word (.bool true) ['r', 'u', 'e'] rest
  | 'f' => word (.bool false) ['a', 'l', 's', 'e'] rest
  | '-' => digits true rest
  | c => if isDigit c then digits false (c :: rest) else (.flaw .stray, [])

theorem wordLength (t : Token) (letters text : List Char) :
    (word t letters text).2.length ≤ text.length := by
  fun_induction word t letters text with
  | case3 _ _ _ shorter => simp only [List.length_cons]; omega
  | _ => simp

theorem dropWhileLength (text : List Char) : (text.dropWhile isDigit).length ≤ text.length :=
  (List.dropWhile_sublist isDigit).length_le

theorem exponentSignLength (text : List Char) : (exponentSign text).2.length ≤ text.length := by
  fun_cases exponentSign text <;> simp

theorem exponentLength (negative : Bool) (whole : List Char) (fraction : Option (List Char))
    (text : List Char) : (exponent negative whole fraction text).2.length ≤ text.length := by
  cases text with
  | nil => simp [exponent]
  | cons c rest =>
    have signed := exponentSignLength rest
    have dropped := dropWhileLength (exponentSign rest).2
    simp only [exponent]
    split
    · split
      · simp [lacksDigit]
      · simp only [List.length_cons]; omega
    · simp

theorem digitsLength (negative : Bool) (text : List Char) :
    (digits negative text).2.length ≤ (text.dropWhile isDigit).length := by
  simp only [digits]
  split
  · simp [lacksDigit]
  · simp
  · split
    · rename_i rest point
      split
      · simp [lacksDigit]
      · rename_i fraction _
        have := exponentLength negative (text.takeWhile isDigit) (some (rest.takeWhile isDigit))
          (rest.dropWhile isDigit)
        have := dropWhileLength rest
        simp only [point, List.length_cons]
        omega
    · exact exponentLength ..

theorem tokenLength (c : Char) (rest : List Char) : (token c rest).2.length ≤ rest.length := by
  unfold token
  split <;> try simp
  · exact splitTextLength rest
  · exact wordLength ..
  · exact wordLength ..
  · exact wordLength ..
  · exact Nat.le_trans (digitsLength true rest) (dropWhileLength rest)
  · split
    · rename_i digit
      refine Nat.le_trans (digitsLength false (c :: rest)) ?_
      simpa [List.dropWhile, digit] using dropWhileLength rest
    · simp

def tokens : List Char → List Token
  | [] => []
  | c :: rest =>
    if isSpace c then tokens rest
    else
      have := tokenLength c rest
      (token c rest).1 :: tokens (token c rest).2
termination_by text => text.length
decreasing_by all_goals simp only [List.length_cons]; omega

end QueryTree.Json
