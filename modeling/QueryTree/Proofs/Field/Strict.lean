import QueryTree.Field.Reference
import QueryTree.Proofs.Field.Text

/-! References of the strict form: what they consist of, and the fields that they name. -/
namespace QueryTree
namespace Reference

/- Letters and numerals are those of all scripts, as in the parser. -/
def IsIdentifier (text : String) : Prop :=
  ∃ c rest, text.toList = c :: rest ∧ startsIdentifier c = true ∧
    ∀ d ∈ rest, continuesIdentifier d = true

def IsColumn (text : String) : Prop := IsIdentifier text ∨ text = "*"

inductive Written : String → Reference → Prop where
  | wildcard : Written "*" ⟨none, "*"⟩
  | bare {name : String} (identifier : IsIdentifier name) : Written name ⟨none, name⟩
  | qualified {table name : String} (identifier : IsIdentifier table) (column : IsColumn name) :
      Written (table ++ "." ++ name) ⟨some table, name⟩

def Accepted (text : String) : Prop := ∃ reference, parse text = .ok reference

theorem continuesOfStarts {c : Char} (starts : startsIdentifier c = true) :
    continuesIdentifier c = true := by
  simp only [startsIdentifier, Bool.or_eq_true] at starts
  simp only [continuesIdentifier, Bool.or_eq_true]
  rcases starts with letter | underscore
  · exact .inl (.inl (Text.letterOrNumeralOfLetter letter))
  · exact .inl (.inr underscore)

theorem identifierFound {text name rest : List Char}
    (found : identifier? text = some (name, rest)) :
    IsIdentifier (String.ofList name) ∧ text = name ++ rest := by
  unfold identifier? at found
  split at found
  · contradiction
  · rename_i c tail
    split at found
    · rename_i starts
      simp only [Option.some.injEq, Prod.mk.injEq] at found
      obtain ⟨rfl, rfl⟩ := found
      exact ⟨⟨c, _, String.toList_ofList, starts, List.all_eq_true.mp List.all_takeWhile⟩, by simp⟩
    · contradiction

theorem identifierCharacters {text : String} (identifier : IsIdentifier text) :
    text.toList ≠ [] ∧ ∀ c ∈ text.toList, continuesIdentifier c = true := by
  obtain ⟨c, rest, shape, starts, continues⟩ := identifier
  rw [shape]
  refine ⟨List.cons_ne_nil _ _, fun d inside => ?_⟩
  rcases List.mem_cons.mp inside with rfl | inside
  · exact continuesOfStarts starts
  · exact continues d inside

theorem pointApart : continuesIdentifier '.' = false := by decide +kernel

theorem starApart : startsIdentifier '*' = false := by decide +kernel

theorem identifierNoPoint {text : String} (identifier : IsIdentifier text) : '.' ∉ text.toList := by
  intro inside
  have apart := pointApart
  rw [(identifierCharacters identifier).2 '.' inside] at apart
  contradiction

def isReferenceChar (c : Char) : Bool := continuesIdentifier c || c == '.' || c == '*'

theorem writtenCharacters {text : String} {reference : Reference}
    (written : Written text reference) :
    text.toList ≠ [] ∧ ∀ c ∈ text.toList, isReferenceChar c = true := by
  have inside {name : String} (identifier : IsIdentifier name) (c : Char) (h : c ∈ name.toList) :
      isReferenceChar c = true := by
    simp [isReferenceChar, (identifierCharacters identifier).2 c h]
  cases written with
  | wildcard => exact ⟨by decide, by simp [isReferenceChar]⟩
  | bare identifier => exact ⟨(identifierCharacters identifier).1, inside identifier⟩
  | @qualified table name identifier column =>
    refine ⟨by simp, fun c member => ?_⟩
    simp only [String.toList_append, List.mem_append] at member
    rcases member with (before | point) | after
    · exact inside identifier c before
    · have point : c = '.' := by simpa using point
      simp [isReferenceChar, point]
    · rcases column with identifier | rfl
      · exact inside identifier c after
      · have star : c = '*' := by simpa using after
        simp [isReferenceChar, star]

inductive Reads (text : List Char) : Option (Reference × List Char) → Prop where
  | wildcard {rest : List Char} (star : text = '*' :: rest) : Reads text (some (⟨none, "*"⟩, rest))
  | nothing (noStar : ∀ rest, text ≠ '*' :: rest) (unnamed : identifier? text = none) :
      Reads text none
  | all {table after : List Char} (named : identifier? text = some (table, '.' :: '*' :: after)) :
      Reads text (some (⟨some (String.ofList table), "*"⟩, after))
  | column {table more name after : List Char} (named : identifier? text = some (table, '.' :: more))
      (column : identifier? more = some (name, after)) :
      Reads text (some (⟨some (String.ofList table), String.ofList name⟩, after))
  | bare {name after : List Char} (named : identifier? text = some (name, after))
      (noColumn : ∀ more, after = '.' :: more →
        (∀ rest, more ≠ '*' :: rest) ∧ identifier? more = none) :
      Reads text (some (⟨none, String.ofList name⟩, after))

theorem longestReads (text : List Char) : Reads text (longest? text) := by
  unfold longest?
  split
  · exact .wildcard rfl
  · rename_i noStar
    cases named : identifier? text with
    | none => exact .nothing noStar named
    | some parts =>
      obtain ⟨first, after⟩ := parts
      simp only [bind, Option.bind, pure]
      split
      · exact .all named
      · rename_i more noStarAfter
        cases column : identifier? more with
        | some parts => exact .column named column
        | none =>
          refine .bare named fun other same => ?_
          cases same
          exact ⟨fun rest same => noStarAfter rest (by rw [same]), column⟩
      · rename_i noPoint
        exact .bare named fun more same => absurd same (noPoint more)

theorem qualifiedText (table name : List Char) : String.ofList (table ++ '.' :: name) =
    String.ofList table ++ "." ++ String.ofList name := by
  simp [← String.toList_inj]

theorem readWritten {text rest : List Char} {reference : Reference}
    (found : longest? text = some (reference, rest)) :
    ∃ used, text = used ++ rest ∧ Written (String.ofList used) reference := by
  have reads := longestReads text
  rw [found] at reads
  cases reads with
  | wildcard star => exact ⟨['*'], star, .wildcard⟩
  | all named =>
    obtain ⟨identifier, whole⟩ := identifierFound named
    refine ⟨_ ++ ['.', '*'], by rw [whole, List.append_assoc]; rfl, ?_⟩
    rw [qualifiedText]
    exact .qualified identifier (.inr rfl)
  | @column table more name _ named column =>
    obtain ⟨identifier, whole⟩ := identifierFound named
    obtain ⟨second, wholeMore⟩ := identifierFound column
    refine ⟨table ++ '.' :: name, by rw [whole, wholeMore, List.append_assoc, List.cons_append], ?_⟩
    rw [qualifiedText]
    exact .qualified identifier (.inl second)
  | bare named noColumn =>
    obtain ⟨identifier, whole⟩ := identifierFound named
    exact ⟨_, whole, .bare identifier⟩

theorem parsedWritten {text : String} {reference : Reference}
    (parsed : parse text = .ok reference) : Written text reference := by
  unfold parse at parsed
  split at parsed
  · contradiction
  · rename_i c tail shape
    split at parsed
    · contradiction
    · rename_i found
      cases parsed
      obtain ⟨used, whole, written⟩ := readWritten found
      rwa [← List.append_nil used, ← whole, ← shape, String.ofList_toList] at written
    · contradiction

theorem parsedCharacters {text : String} {reference : Reference}
    (parsed : parse text = .ok reference) :
    text.toList ≠ [] ∧ ∀ c ∈ text.toList, isReferenceChar c = true :=
  writtenCharacters (parsedWritten parsed)

end Reference

namespace Field

open Reference (IsIdentifier IsColumn)

structure Strict (f : Field) : Prop where
  name : IsColumn f.name
  table : ∀ table, f.table = some table → IsIdentifier table

structure StrictUnder (reference : String) (implicit : Option String) (f : Field) : Prop where
  name : IsColumn f.name
  table : (∀ table, f.table = some table → IsIdentifier table) ∨
    '.' ∉ reference.toList ∧ f.table = implicit

theorem acceptedUnder {reference : String} (accepted : Reference.Accepted reference)
    (implicit : Option String) : (resolve reference implicit).StrictUnder reference implicit := by
  obtain ⟨parsed, found⟩ := accepted
  cases Reference.parsedWritten found with
  | wildcard =>
    have free : '.' ∉ "*".toList := by decide
    rw [resolveBare free]
    exact ⟨.inr rfl, .inr ⟨free, rfl⟩⟩
  | bare identifier =>
    have free := Reference.identifierNoPoint identifier
    rw [resolveBare free]
    exact ⟨.inl identifier, .inr ⟨free, rfl⟩⟩
  | qualified identifier column =>
    rw [resolveQualified (Reference.identifierNoPoint identifier)]
    refine ⟨column, .inl fun table same => ?_⟩
    cases same
    exact identifier

theorem acceptedStrict {reference : String} (accepted : Reference.Accepted reference) :
    (resolve reference none).Strict := by
  obtain ⟨name, table⟩ := acceptedUnder accepted none
  refine ⟨name, ?_⟩
  rcases table with table | ⟨-, absent⟩
  · exact table
  · simp [absent]

theorem wildcardStrict : wildcard.Strict := ⟨.inr rfl, by simp [wildcard]⟩

end Field
end QueryTree
