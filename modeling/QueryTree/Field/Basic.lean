/-! Fields and the references that name them. -/
namespace QueryTree

structure Field where
  table : Option String
  name : String
  deriving DecidableEq, Repr

namespace Field

def wildcard : Field := ⟨none, "*"⟩

def isWildcard (f : Field) : Bool := f.name == "*"

def text (f : Field) : String :=
  match f.table with
  | some table => table ++ "." ++ f.name
  | none => f.name

def splitAtPoint : List Char → Option (List Char × List Char)
  | [] => none
  | c :: rest =>
    if c = '.' then some ([], rest)
    else (splitAtPoint rest).map fun (before, after) => (c :: before, after)

def resolve (reference : String) (implicit : Option String) : Field :=
  match splitAtPoint reference.toList with
  | some (table, name) => ⟨some (String.ofList table), String.ofList name⟩
  | none => ⟨implicit, reference⟩

theorem splitAtPointSome {text before after : List Char}
    (h : splitAtPoint text = some (before, after)) :
    text = before ++ '.' :: after ∧ '.' ∉ before := by
  induction text generalizing before with
  | nil => simp [splitAtPoint] at h
  | cons c rest ih =>
    simp only [splitAtPoint] at h
    split at h
    · simp_all
    · rename_i other
      obtain ⟨⟨b, a⟩, found, same⟩ := Option.map_eq_some_iff.mp h
      simp only [Prod.mk.injEq] at same
      obtain ⟨rfl, rfl⟩ := same
      have := ih found
      simp_all [eq_comm]

theorem splitAtPointNone {text : List Char} : splitAtPoint text = none ↔ '.' ∉ text := by
  induction text with
  | nil => simp [splitAtPoint]
  | cons c rest ih =>
    by_cases h : c = '.'
    · simp [splitAtPoint, h]
    · simp [splitAtPoint, h, ih, Ne.symm h]

end Field
end QueryTree
