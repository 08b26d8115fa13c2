import Mathlib.Data.List.Forall2
import QueryTree.Proofs.Field.Text
import QueryTree.Proofs.Filter.Visits

/-! The form of a compiled filter: its nodes are those of the filter, each under the node of its own
group, the conditions of a group before its nested groups. -/
namespace QueryTree

def Visit.connective? : Visit → Option Connective
  | .group _ operator => some operator
  | .condition _ => none

def Visit.condition? : Visit → Option Condition
  | .group _ _ => none
  | .condition c => some c

def Operation.connective? (o : Operation) : Option Connective :=
  match o.operator with
  | .connective c => some c
  | .comparison _ => none

namespace Operand

mutual

def Formed : Operand → Prop
  | .operation (.connective _) operands => FormedAll operands
  | .operation (.comparison _) operands => ∃ field literal, operands = [.field field, .literal literal]
  | .field _ | .literal _ => False

def FormedAll : List Operand → Prop
  | [] => True
  | operand :: rest => operand.Formed ∧ FormedAll rest

end

mutual

@[simp] def preorder : Operand → List Operation
  | .operation operator operands => ⟨operator, operands⟩ :: preorderAll operands
  | .field _ | .literal _ => []

@[simp] def preorderAll : List Operand → List Operation
  | [] => []
  | operand :: rest => operand.preorder ++ preorderAll rest

end

theorem formedAppend {before after : List Operand} (first : FormedAll before)
    (later : FormedAll after) : FormedAll (before ++ after) := by
  induction before with
  | nil => exact later
  | cons operand rest ih => exact ⟨first.1, ih first.2⟩

@[simp] theorem preorderAppend (before after : List Operand) :
    preorderAll (before ++ after) = preorderAll before ++ preorderAll after := by
  induction before with
  | nil => rfl
  | cons operand rest ih => simp [ih]

end Operand

structure Condition.ComparedBy (c : Condition) (o : Operation) : Prop where
  comparison : o.connective? = none
  operands : ∃ field literal, o.operands = [.field field, .literal literal] ∧
    field.text = c.field ∧ literal.value = c.value ∧ literal.type = c.value.type

namespace Group

mutual

def MirroredBy : Group → Operation → Prop
  | ⟨operator, conditions, groups⟩, o => ∃ compared nested,
    o = ⟨.connective operator, (compared ++ nested).map Operation.asOperand⟩ ∧
    List.Forall₂ Condition.ComparedBy conditions compared ∧ AllMirroredBy groups nested

def AllMirroredBy : List Group → List Operation → Prop
  | [], nested => nested = []
  | g :: rest, nested => ∃ first others, nested = first :: others ∧ g.MirroredBy first ∧
    AllMirroredBy rest others

end

end Group

namespace Filter

def MirroredBy : Filter → Operation → Prop
  | .leaf c, o => c.ComparedBy o
  | .group g, o => g.MirroredBy o

theorem conditionCompared (s : Settings) (c : Condition) : c.ComparedBy (s.compileCondition c) where
  comparison := rfl
  operands := ⟨_, _, rfl, Field.resolveText c.field, rfl, rfl⟩

theorem conditionsCompared (s : Settings) (conditions : List Condition) :
    List.Forall₂ Condition.ComparedBy conditions (conditions.map s.compileCondition) :=
  List.forall₂_map_right_iff.mpr (List.forall₂_same.mpr fun c _ => conditionCompared s c)

theorem operandsMapped (s : Settings) (groups : List Group) :
    Group.operandsOf s groups = (groups.map (Group.operation s)).map Operation.asOperand := by
  induction groups with
  | nil => rfl
  | cons g rest ih => rw [Group.operandsOf, ih]; rfl

mutual

theorem groupMirrored (s : Settings) : (g : Group) → g.MirroredBy (g.operation s)
  | ⟨operator, conditions, groups⟩ => by
    refine ⟨conditions.map s.compileCondition, groups.map (Group.operation s), ?_,
      conditionsCompared s conditions, groupsMirrored s groups⟩
    rw [Group.operation, operandsMapped, List.map_append, List.map_map, List.map_map]
    rfl

theorem groupsMirrored (s : Settings) : (groups : List Group) →
    Group.AllMirroredBy groups (groups.map (Group.operation s))
  | [] => rfl
  | g :: rest => ⟨_, _, rfl, groupMirrored s g, groupsMirrored s rest⟩

end

theorem operationMirrored (s : Settings) (f : Filter) : f.MirroredBy (f.operation s) := by
  cases f with
  | leaf c => exact conditionCompared s c
  | group g => exact groupMirrored s g

theorem comparedFormed {c : Condition} {o : Operation} (compared : c.ComparedBy o) :
    o.asOperand.Formed := by
  obtain ⟨comparison, field, literal, operands, _⟩ := compared
  obtain ⟨operator, _⟩ := o
  cases operator with
  | connective => contradiction
  | comparison => exact ⟨field, literal, operands⟩

theorem allComparedFormed {conditions : List Condition} {compared : List Operation}
    (all : List.Forall₂ Condition.ComparedBy conditions compared) :
    Operand.FormedAll (compared.map Operation.asOperand) := by
  induction all with
  | nil => trivial
  | cons first _ ih => exact ⟨comparedFormed first, ih⟩

mutual

theorem mirroredFormed : (g : Group) → {o : Operation} → g.MirroredBy o → o.asOperand.Formed
  | ⟨operator, conditions, groups⟩, _, ⟨compared, nested, same, first, later⟩ => by
    rw [same, List.map_append]
    exact Operand.formedAppend (allComparedFormed first) (allMirroredFormed groups later)

theorem allMirroredFormed : (groups : List Group) → {nested : List Operation} →
    Group.AllMirroredBy groups nested → Operand.FormedAll (nested.map Operation.asOperand)
  | [], _, empty => by
    cases show _ = [] from empty
    trivial
  | g :: rest, _, ⟨first, others, same, mirrored, later⟩ => by
    rw [same]
    exact ⟨mirroredFormed g mirrored, allMirroredFormed rest later⟩

end

def Stands : Visit → Operation → Prop
  | .group _ operator, o => o.connective? = some operator
  | .condition c, o => c.ComparedBy o

theorem comparedPreorder {c : Condition} {o : Operation} (compared : c.ComparedBy o) :
    o.asOperand.preorder = [o] := by
  obtain ⟨_, field, literal, operands, _⟩ := compared
  obtain ⟨operator, _⟩ := o
  cases operands
  rfl

theorem conditionsStand {conditions : List Condition} {compared : List Operation}
    (all : List.Forall₂ Condition.ComparedBy conditions compared) :
    List.Forall₂ Stands (conditions.map .condition)
      (Operand.preorderAll (compared.map Operation.asOperand)) := by
  induction all with
  | nil => exact .nil
  | cons first _ ih =>
    rw [List.map_cons, List.map_cons, Operand.preorderAll, comparedPreorder first]
    exact .cons first ih

mutual

theorem groupStands : (g : Group) → (depth : Nat) → {o : Operation} → g.MirroredBy o →
    List.Forall₂ Stands (g.visits depth) o.asOperand.preorder
  | ⟨operator, conditions, groups⟩, depth, _, ⟨compared, nested, same, first, later⟩ => by
    rw [same, Operation.asOperand, Operand.preorder, List.map_append, Operand.preorderAppend,
      Group.visits]
    exact .cons rfl (List.rel_append (conditionsStand first) (groupsStand groups (depth + 1) later))

theorem groupsStand : (groups : List Group) → (depth : Nat) → {nested : List Operation} →
    Group.AllMirroredBy groups nested →
    List.Forall₂ Stands (Group.visitsAll depth groups)
      (Operand.preorderAll (nested.map Operation.asOperand))
  | [], _, _, empty => by
    cases show _ = [] from empty
    exact .nil
  | g :: rest, depth, _, ⟨first, others, same, mirrored, later⟩ => by
    rw [same, Group.visitsAll, List.map_cons, Operand.preorderAll]
    exact List.rel_append (groupStands g depth mirrored) (groupsStand rest depth later)

end

theorem mirroredStands {f : Filter} {o : Operation} (mirrored : f.MirroredBy o) :
    o.asOperand.Formed ∧ List.Forall₂ Stands f.visits o.asOperand.preorder := by
  cases f with
  | leaf c =>
    have compared : c.ComparedBy o := mirrored
    refine ⟨comparedFormed compared, ?_⟩
    rw [comparedPreorder compared]
    exact .cons compared .nil
  | group g => exact ⟨mirroredFormed g mirrored, groupStands g 1 mirrored⟩

theorem connectivesStand {nodes : List Visit} {operations : List Operation}
    (stand : List.Forall₂ Stands nodes operations) :
    operations.filterMap Operation.connective? = nodes.filterMap Visit.connective? := by
  induction stand with
  | nil => rfl
  | @cons node o nodes operations first _ ih =>
    cases node with
    | group _ operator =>
      have connective : o.connective? = some operator := first
      simp [connective, Visit.connective?, ih]
    | condition c => simp [List.filterMap_cons, first.comparison, Visit.connective?, ih]

theorem comparisonsStand {nodes : List Visit} {operations : List Operation}
    (stand : List.Forall₂ Stands nodes operations) :
    List.Forall₂ Condition.ComparedBy (nodes.filterMap Visit.condition?)
      (operations.filter fun o => o.connective?.isNone) := by
  induction stand with
  | nil => exact .nil
  | @cons node o nodes operations first _ ih =>
    cases node with
    | group _ operator =>
      have connective : o.connective? = some operator := first
      simpa [List.filterMap_cons, connective, Visit.condition?] using ih
    | condition c =>
      have compared : c.ComparedBy o := first
      simpa [List.filterMap_cons, compared.comparison, Visit.condition?] using And.intro compared ih

/-- A compiled filter has the nodes of the filter, in the order in which they are visited: its
connectives are those of the groups, its comparisons those of the conditions with their fields, values
and types, and each stands under the node of its own group. -/
theorem compiledMirrored {s : Settings} {f : Filter} {o : Operation}
    (compiled : f.compile s = .ok o) :
    o.asOperand.Formed ∧ f.MirroredBy o ∧ List.Forall₂ Stands f.visits o.asOperand.preorder ∧
    o.asOperand.preorder.filterMap Operation.connective? = f.visits.filterMap Visit.connective? ∧
    List.Forall₂ Condition.ComparedBy (f.visits.filterMap Visit.condition?)
      (o.asOperand.preorder.filter fun node => node.connective?.isNone) := by
  have mirrored : f.MirroredBy o := compiledOperation compiled ▸ operationMirrored s f
  obtain ⟨formed, stand⟩ := mirroredStands mirrored
  exact ⟨formed, mirrored, stand, connectivesStand stand, comparisonsStand stand⟩

/- A field with several points, a field without a name, and empty groups beside and below others. -/
def uneven : Filter :=
  .group ⟨.or, [⟨"a.b.c", .null, some "in"⟩],
    [⟨.and, [], []⟩, ⟨.not, [⟨"", .bool true, none⟩], [⟨.or, [], []⟩]⟩]⟩

theorem unevenMirrored : ∃ o, uneven.compile ⟨3, some 6, true⟩ = .ok o ∧
    o.asOperand.Formed ∧ uneven.MirroredBy o ∧
    List.Forall₂ Stands uneven.visits o.asOperand.preorder ∧
    o.asOperand.preorder.filterMap Operation.connective? = [.or, .and, .not, .or] ∧
    List.Forall₂ Condition.ComparedBy [⟨"a.b.c", .null, some "in"⟩, ⟨"", .bool true, none⟩]
      (o.asOperand.preorder.filter fun node => node.connective?.isNone) := by
  have compiled : uneven.compile ⟨3, some 6, true⟩ = .ok (uneven.operation ⟨3, some 6, true⟩) := by rfl
  exact ⟨_, compiled, compiledMirrored compiled⟩

end Filter
end QueryTree
