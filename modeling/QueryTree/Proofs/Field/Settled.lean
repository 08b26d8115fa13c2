import QueryTree.Compiler
import QueryTree.Proofs.Field.Text
import QueryTree.Statement.Text

/-! Fields that their texts name in every scope. Resolving a reference gives such a field when the
reference has a point, or when the table that it is resolved under has none. -/
namespace QueryTree
namespace Field

def Settled (f : Field) : Prop := ∀ implicit, resolve f.text implicit = f

theorem qualifiedExact (reference : String) (implicit : Option String) :
    (∃ table, (resolve reference implicit).table = some table) ↔
      '.' ∈ reference.toList ∨ implicit ≠ none := by
  rcases referenceCases reference with bare | ⟨table, name, rfl, free⟩
  · rw [resolveBare bare, Option.ne_none_iff_exists']
    simp [bare]
  · rw [resolveQualified free]
    simp

theorem tableGiven (reference table : String) :
    ∃ own, (resolve reference (some table)).table = some own :=
  (qualifiedExact reference (some table)).mpr (.inr nofun)

theorem settledExact {f : Field} :
    f.Settled ↔ ∃ table, f.table = some table ∧ '.' ∉ table.toList := by
  constructor
  · intro settled
    -- Under a table every text is resolved to a field with a table, so this field has one.
    obtain ⟨table, qualified⟩ := tableGiven f.text ""
    rw [settled (some "")] at qualified
    refine ⟨table, qualified, ?_⟩
    rcases referenceCases f.text with bare | ⟨first, rest, whole, free⟩
    · rw [← settled none, resolveBare bare] at qualified
      contradiction
    · rw [← settled none, whole, resolveQualified free] at qualified
      cases qualified
      exact free
  · rintro ⟨table, qualified, free⟩ implicit
    obtain ⟨_, name⟩ := f
    cases qualified
    exact resolveQualified free name implicit

theorem resolvedSettled (reference : String) (implicit : Option String) :
    (resolve reference implicit).Settled ↔
      '.' ∈ reference.toList ∨ ∃ table, implicit = some table ∧ '.' ∉ table.toList := by
  rw [settledExact]
  rcases referenceCases reference with bare | ⟨table, name, rfl, free⟩
  · rw [resolveBare bare]
    simp [bare]
  · rw [resolveQualified free]
    simpa using free

theorem settledUnder (reference table : String) : (resolve reference (some table)).Settled ↔
    '.' ∈ reference.toList ∨ '.' ∉ table.toList := by
  simpa using resolvedSettled reference (some table)

end Field

theorem Operation.equationText (left right : Field) :
    (equation left right).text = left.text ++ " = " ++ right.text := by
  have mark : " = " = " " ++ "=" ++ " " := by decide
  rw [mark, ← String.append_assoc, ← String.append_assoc]
  rfl

namespace Query.Join

structure Sides (join : Query.Join) (left right : Field) : Prop where
  predicate : join.compile.on = .equation left right
  text : join.compile.on.text = left.text ++ " = " ++ right.text
  leftQualified : (∃ table, left.table = some table) ↔
    '.' ∈ join.on.localField.toList ∨ join.on.localAlias ≠ none
  leftSettled : left.Settled ↔ '.' ∈ join.on.localField.toList ∨
    ∃ table, join.on.localAlias = some table ∧ '.' ∉ table.toList
  rightQualified : ∃ table, right.table = some table
  rightSettled : right.Settled ↔ '.' ∈ join.on.foreignField.toList ∨
    '.' ∉ (join.aliasName.getD join.object).toList

theorem sidesCompiled (join : Query.Join) : ∃ left right, join.Sides left right :=
  ⟨.resolve join.on.localField join.on.localAlias,
    .resolve join.on.foreignField (some (join.aliasName.getD join.object)),
    { predicate := rfl
      text := Operation.equationText _ _
      leftQualified := Field.qualifiedExact _ _
      leftSettled := Field.resolvedSettled _ _
      rightQualified := Field.tableGiven _ _
      rightSettled := Field.settledUnder _ _ }⟩

end Query.Join

namespace Field

/-- A reference is shown by the field that it is resolved to under no table, so that no other is
resolved to that field. Under a table every field has a table, and its text is resolved to the field
again wherever that happens, unless a bare reference was put under a table with a point. The same
holds of both sides of a join. -/
theorem resolvedBack :
    (∀ reference, (resolve reference none).text = reference) ∧
    (Function.Injective fun reference => resolve reference none) ∧
    (∀ reference table, (∃ own, (resolve reference (some table)).table = some own) ∧
      ((resolve reference (some table)).Settled ↔
        '.' ∈ reference.toList ∨ '.' ∉ table.toList)) ∧
    ∀ join : Query.Join, ∃ left right, join.Sides left right := by
  refine ⟨resolveText, resolveInjective, fun reference table => ?_, Query.Join.sidesCompiled⟩
  exact ⟨tableGiven reference table, settledUnder reference table⟩

end Field
end QueryTree
