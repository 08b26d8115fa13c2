import Mathlib.Logic.Function.Basic
import QueryTree.Field.Basic

/-! References and the fields that they name: the field shows the reference that it was resolved from,
and the part before a point is its table. -/
namespace QueryTree
namespace Field

theorem splitAtFirst {before after : List Char} (free : '.' ∉ before) :
    splitAtPoint (before ++ '.' :: after) = some (before, after) := by
  induction before with
  | nil => simp [splitAtPoint]
  | cons c rest ih =>
    obtain ⟨differs, free⟩ := not_or.mp fun either => free (List.mem_cons.mpr either)
    simp [splitAtPoint, Ne.symm differs, ih free]

theorem resolveBare {reference : String} (free : '.' ∉ reference.toList) (implicit : Option String) :
    resolve reference implicit = ⟨implicit, reference⟩ := by
  rw [resolve, splitAtPointNone.mpr free]

theorem resolveQualified {table : String} (free : '.' ∉ table.toList) (name : String)
    (implicit : Option String) : resolve (table ++ "." ++ name) implicit = ⟨some table, name⟩ := by
  have whole : (table ++ "." ++ name).toList = table.toList ++ '.' :: name.toList := by simp
  rw [resolve, whole, splitAtFirst free]
  simp

theorem referenceCases (reference : String) : '.' ∉ reference.toList ∨
    ∃ table name, reference = table ++ "." ++ name ∧ '.' ∉ table.toList := by
  cases split : splitAtPoint reference.toList with
  | none => exact .inl (splitAtPointNone.mp split)
  | some parts =>
    obtain ⟨before, after⟩ := parts
    obtain ⟨whole, free⟩ := splitAtPointSome split
    refine .inr ⟨String.ofList before, String.ofList after, ?_, by simpa using free⟩
    rw [← String.toList_inj, whole]
    simp

@[simp] theorem resolveText (reference : String) : (resolve reference none).text = reference := by
  rcases referenceCases reference with bare | ⟨table, name, rfl, free⟩
  · rw [resolveBare bare]
    rfl
  · rw [resolveQualified free]
    rfl

theorem resolveInjective : Function.Injective fun reference => resolve reference none :=
  Function.LeftInverse.injective resolveText

end Field
end QueryTree
