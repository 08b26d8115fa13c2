import QueryTree.Proofs.Json.Inside
import QueryTree.Proofs.Operand.Json
import QueryTree.Proofs.Query.Fields
import QueryTree.Proofs.Statement.Clauses
import QueryTree.Proofs.Value.Wording

/-! Where the nodes of a filter stand in the JSON, the text and the outline of the statement that it is
compiled to. -/
namespace QueryTree

namespace Text

def Shows (whole part : String) : Prop :=
  ∃ before after, whole.toList = before ++ part.toList ++ after ∧ EndsLiteral after

theorem endsBoth {first rest : List Char} (ends : EndsLiteral first) (behind : EndsLiteral rest) :
    EndsLiteral (first ++ rest) := by
  cases first with
  | nil => exact behind
  | cons c first => exact stopsAtCons (ends c rfl)

theorem showsSelf (text : String) : Shows text text :=
  ⟨[], [], by rw [List.nil_append, List.append_nil], stopsAtNil⟩

theorem showsThrough {whole between part : String} (outer : Shows whole between)
    (inner : Shows between part) : Shows whole part := by
  obtain ⟨before, after, outside, ends⟩ := outer
  obtain ⟨left, right, inside, stops⟩ := inner
  refine ⟨before ++ left, right ++ after, ?_, endsBoth stops ends⟩
  simp only [outside, inside, List.append_assoc]

theorem showsAhead {whole part after : String} (shows : Shows whole part)
    (ends : EndsLiteral after.toList) : Shows (whole ++ after) part := by
  obtain ⟨left, right, same, stops⟩ := shows
  refine ⟨left, right ++ after.toList, ?_, endsBoth stops ends⟩
  simp only [String.toList_append, same, List.append_assoc]

theorem showsBehind {whole part : String} (shows : Shows whole part) (before : String) :
    Shows (before ++ whole) part := by
  obtain ⟨left, right, same, stops⟩ := shows
  refine ⟨before.toList ++ left, right, ?_, stops⟩
  simp only [String.toList_append, same, List.append_assoc]

theorem showsPart {part : String} {parts : List String} (listed : part ∈ parts) {separator : String}
    {c : Char} {more : List Char} (shape : separator.toList = c :: more) (ends : EndsLiteral [c]) :
    Shows (separator.intercalate parts) part := by
  unfold Shows
  rw [String.toList_intercalate, shape]
  induction parts with
  | nil => contradiction
  | cons first rest ih =>
    cases rest with
    | nil =>
      cases List.mem_singleton.mp listed
      exact ⟨[], [], by simp, stopsAtNil⟩
    | cons next others =>
      rw [List.map_cons, List.map_cons, List.intercalate_cons_cons]
      rcases List.mem_cons.mp listed with rfl | later
      · exact ⟨[], _, by rw [List.nil_append, List.append_assoc]; rfl, stopsAtCons (ends c rfl)⟩
      · obtain ⟨before, after, same, stops⟩ := ih later
        rw [List.map_cons] at same
        refine ⟨first.toList ++ c :: more ++ before, after, ?_, stops⟩
        simp only [same, List.append_assoc]

end Text

open Text (Shows showsSelf showsThrough showsAhead showsBehind showsPart)

namespace Operand

inductive Inside (inner : Operand) : Operand → Prop
  | here : Inside inner inner
  | under {operator operands operand} (listed : operand ∈ operands) (inside : Inside inner operand) :
    Inside inner (.operation operator operands)

theorem insideThrough {outer between inner : Operand} (above : Inside between outer)
    (below : Inside inner between) : Inside inner outer := by
  induction above with
  | here => exact below
  | under listed _ ih => exact .under listed ih

theorem writeShown (operator : Operator) {text : String} {texts : List String} (listed : text ∈ texts) :
    Shows (Operation.write operator texts) text := by
  have space : EndsLiteral [' '] := Text.stopsAtCons rfl
  have bracket : EndsLiteral ")".toList := Text.stopsAtCons rfl
  have keyword (c : Connective) :
      (" " ++ c.keyword ++ " ").toList = ' ' :: (c.keyword ++ " ").toList := by
    simp [String.toList_append]
  unfold Operation.write
  split
  · contradiction
  · contradiction
  · contradiction
  · exact showsAhead (showsBehind (showsPart listed rfl space) _) bracket
  · cases List.mem_singleton.mp listed
    exact showsSelf text
  · exact showsAhead (showsBehind (showsPart listed (keyword _) space) _) bracket
  · rename_i c left right
    rcases List.mem_cons.mp listed with rfl | last
    · have behind : EndsLiteral (" " ++ (c.keyword ++ (" " ++ right))).toList := by
        rw [String.toList_append]
        exact Text.stopsAtCons rfl
      simpa only [String.append_assoc] using showsAhead (showsSelf text) behind
    · cases List.mem_singleton.mp last
      exact showsBehind (showsSelf text) _
  · exact showsAhead (showsBehind (showsPart listed rfl (Text.stopsAtCons rfl)) _) bracket

theorem textListed {operand : Operand} {operands : List Operand} (listed : operand ∈ operands) :
    operand.text ∈ textsOf operands := by
  induction operands with
  | nil => contradiction
  | cons first rest ih =>
    rw [textsOf]
    exact List.mem_cons.mpr ((List.mem_cons.mp listed).imp (congrArg text) ih)

theorem insideText {inner operand : Operand} (inside : Inside inner operand) :
    Shows operand.text inner.text := by
  induction inside with
  | here => exact showsSelf _
  | under listed _ ih => exact showsThrough (writeShown _ (textListed listed)) ih

theorem outlineListed {operand : Operand} {operands : List Operand} (listed : operand ∈ operands)
    (level : Nat) : operand.outline level ⊆ outlines level operands := by
  induction operands with
  | nil => contradiction
  | cons first rest ih =>
    rw [outlines]
    rcases List.mem_cons.mp listed with rfl | later
    · exact List.subset_append_left _ _
    · exact fun line inside => List.mem_append_right _ (ih later inside)

theorem insideOutline {inner operand : Operand} (inside : Inside inner operand) (level : Nat) :
    ∃ deeper, inner.outline deeper ⊆ operand.outline level := by
  induction inside generalizing level with
  | here => exact ⟨level, fun _ => id⟩
  | under listed _ ih =>
    obtain ⟨deeper, shown⟩ := ih (level + 1)
    rw [outline]
    exact ⟨deeper, fun line inside => .tail _ (outlineListed listed (level + 1) (shown inside))⟩

theorem underJson {inner : Json} {operand : Operand} {operands : List Operand}
    (listed : operand ∈ operands) (inside : Json.Inside inner operand.toJson) :
    Json.Inside inner (.array (taggedAll operands)) := by
  rw [Operation.taggedAllList]
  exact .item (List.mem_map_of_mem listed) inside

theorem insideJson {inner operand : Operand} (inside : Inside inner operand) :
    Json.Inside inner.toJson operand.toJson := by
  induction inside with
  | here => exact .here
  | under listed _ ih =>
    exact .member (List.mem_cons_of_mem _ (List.mem_cons_of_mem _ List.mem_cons_self)) (underJson listed ih)

end Operand

theorem Operation.insideJson {operand : Operand} {o : Operation} (under : operand ≠ o.asOperand)
    (inside : operand.Inside o.asOperand) : Json.Inside operand.toJson o.toJson := by
  cases inside with
  | here => contradiction
  | under listed inside =>
    exact .member (List.mem_cons_of_mem _ List.mem_cons_self)
      (Operand.underJson listed (Operand.insideJson inside))

namespace Filter

open Operand (Inside)

mutual

theorem groupInside (s : Settings) {c : Condition} : (g : Group) → c ∈ g.allConditions →
    Inside (s.compileCondition c).asOperand (g.operation s).asOperand
  | ⟨operator, conditions, groups⟩, listed => by
    rw [Group.operation, Operation.asOperand]
    rcases List.mem_append.mp listed with here | deeper
    · exact .under (List.mem_append_left _ (List.mem_map_of_mem here)) .here
    · obtain ⟨operand, nested, inside⟩ := groupsInside s groups deeper
      exact .under (List.mem_append_right _ nested) inside

theorem groupsInside (s : Settings) {c : Condition} : (groups : List Group) →
    c ∈ Group.conditionsOf groups →
    ∃ operand ∈ Group.operandsOf s groups, Inside (s.compileCondition c).asOperand operand
  | [], listed => nomatch listed
  | g :: rest, listed => by
    rw [Group.operandsOf]
    rcases List.mem_append.mp listed with here | later
    · exact ⟨_, List.mem_cons_self, groupInside s g here⟩
    · obtain ⟨operand, nested, inside⟩ := groupsInside s rest later
      exact ⟨operand, List.mem_cons_of_mem _ nested, inside⟩

end

theorem conditionInside (s : Settings) {f : Filter} {c : Condition} (listed : c ∈ f.conditions) :
    Inside (s.compileCondition c).asOperand (f.operation s).asOperand := by
  cases f with
  | leaf d =>
    cases List.mem_singleton.mp listed
    exact .here
  | group g => exact groupInside s g listed

end Filter

namespace Statement

variable {s : Statement} {o : Operation}

theorem clauseWritten {key : Key} {entry : record.Entry key} (held : s.draft key = some entry) :
    ∃ members, s.toJson = .object members ∧ (record.name key, encode key entry) ∈ members := by
  refine ⟨_, toJsonWritten s, List.mem_flatMap.mpr ⟨key, recordSound.complete key, ?_⟩⟩
  rw [held]
  exact List.mem_singleton_self _

theorem conditionJson (held : s.condition = some o) {json : Json} (inside : Json.Inside json o.toJson) :
    Json.Inside json s.toJson := by
  have set : s.draft .condition = some (some o) := congrArg (Option.map some) held
  obtain ⟨members, shape, listed⟩ := clauseWritten set
  rw [shape]
  exact .member listed (.member List.mem_cons_self inside)

theorem conditionText (held : s.condition = some o) : Shows s.text o.text := by
  have clause : "WHERE " ++ o.text ∈ s.clauses := by simp [clauses, held]
  have space : EndsLiteral [' '] := Text.stopsAtCons rfl
  exact showsThrough (showsPart clause rfl space) (showsBehind (showsSelf o.text) "WHERE ")

theorem conditionOutline (held : s.condition = some o) : o.outline 1 ⊆ s.outline := by
  intro line inside
  simp [outline, held, inside]

end Statement
end QueryTree
