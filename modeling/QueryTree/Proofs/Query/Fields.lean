import Mathlib.Data.List.Forall2
import QueryTree.Pass
import QueryTree.Proofs.Filter.Visits
import QueryTree.Proofs.Json.Holds

/-! The fields of a statement and the references that they are resolved from. -/
namespace QueryTree

namespace Operand

mutual

@[simp] def fields : Operand → List Field
  | .operation _ operands => fieldsOf operands
  | .field f => [f]
  | .literal _ => []

@[simp] def fieldsOf : List Operand → List Field
  | [] => []
  | operand :: rest => operand.fields ++ fieldsOf rest

end

@[simp] theorem fieldsOfAppend (before after : List Operand) :
    fieldsOf (before ++ after) = fieldsOf before ++ fieldsOf after := by
  induction before with
  | nil => rfl
  | cons operand rest ih => simp [ih]

end Operand

def Operation.fields (o : Operation) : List Field := Operand.fieldsOf o.operands

namespace Statement

def Column.fields : Column → List Field
  | .field f => [f]
  | .aggregate a => a.field.toList

/-- The fields outside of joins, clause after clause. -/
def fields (s : Statement) : List Field :=
  s.columns.flatMap Column.fields ++ s.condition.toList.flatMap Operation.fields ++
    s.groupBy.getD [] ++ (s.orderBy.getD []).map OrderItem.field

end Statement

namespace Group

mutual

@[simp] def allConditions : Group → List Condition
  | ⟨_, conditions, groups⟩ => conditions ++ conditionsOf groups

@[simp] def conditionsOf : List Group → List Condition
  | [] => []
  | g :: rest => g.allConditions ++ conditionsOf rest

end

@[simp] theorem conditionsOfAppend (before after : List Group) :
    conditionsOf (before ++ after) = conditionsOf before ++ conditionsOf after := by
  induction before with
  | nil => rfl
  | cons g rest ih => simp [ih]

end Group

def Filter.conditions : Filter → List Condition
  | .leaf c => [c]
  | .group g => g.allConditions

namespace Query

def references (q : Query) : List String :=
  q.fields ++ q.aggregations.filterMap Aggregation.field ++
    q.filter.toList.flatMap (fun f => f.conditions.map Condition.field) ++
    q.groupBy ++ q.sort.map SortKey.field

def Join.references (join : Join) : List (String × Option String) :=
  [(join.on.localField, join.on.localAlias),
    (join.on.foreignField, some (join.aliasName.getD join.object))]

def statement (config : Config) (q : Query) : Statement where
  columns := q.columns
  table := q.target
  condition := q.filter.map (Filter.operation config.filterSettings)
  joins := clause Join.compile q.joins
  groupBy := clause (fun f => Field.resolve f none) q.groupBy
  orderBy := clause SortKey.compile q.sort
  limit := q.limit
  offset := q.offset

theorem compileStrict {config : Config} (strict : config.strictFieldRefs = true) (q : Query) :
    q.compile config =
      (do q.checkReferences; q.compile { config with strictFieldRefs := false }) := by
  unfold compile
  rw [if_pos strict]
  rfl

theorem compileLax {config : Config} (lax : config.strictFieldRefs = false) (q : Query) :
    q.compile config = (do
      let condition ← q.compileFilter config
      return { q.statement config with condition := condition }) := by
  unfold compile
  rw [if_neg (Bool.eq_false_iff.mp lax)]
  rfl

theorem compiledFilter {q : Query} {config : Config} {condition : Option Operation}
    (compiled : q.compileFilter config = .ok condition) :
    condition = q.filter.map (Filter.operation config.filterSettings) := by
  unfold compileFilter at compiled
  split at compiled
  · rename_i f present
    cases done : f.compile config.filterSettings with
    | error e => rw [done] at compiled; contradiction
    | ok o =>
      rw [done] at compiled
      cases compiled
      rw [present, Filter.compiledOperation done]
      rfl
  · rename_i absent
    cases compiled
    rw [absent]
    rfl

theorem compiledParts {q : Query} {config : Config} {s : Statement}
    (compiled : q.compile config = .ok s) : q.compileFilter config = .ok s.condition ∧
      s = { q.statement config with condition := s.condition } := by
  have unchecked : q.compile { config with strictFieldRefs := false } = .ok s := by
    cases strict : config.strictFieldRefs with
    | true =>
      rw [compileStrict strict] at compiled
      exact (Json.bindOk compiled).choose_spec.2
    | false =>
      have same : { config with strictFieldRefs := false } = config := by rw [← strict]
      rwa [same]
  rw [compileLax rfl] at unchecked
  obtain ⟨condition, filtered, made⟩ := Json.bindOk unchecked
  cases made
  exact ⟨filtered, rfl⟩

theorem compiledStatement {q : Query} {config : Config} {s : Statement}
    (compiled : q.compile config = .ok s) : s = q.statement config := by
  obtain ⟨filtered, same⟩ := compiledParts compiled
  rw [same, compiledFilter filtered]
  rfl

theorem buildIdentity (config : Config) (q : Query) :
    Compiler.build ⟨config, .identity⟩ q = q.compile config := by
  unfold Compiler.build
  cases q.compile config <;> rfl

theorem projectedFields (fields : List String) :
    (fields.map fun f => Statement.Column.field (.resolve f none)).flatMap Statement.Column.fields =
      fields.map fun r => .resolve r none := by
  rw [List.flatMap_map, List.map_eq_flatMap]
  rfl

theorem aggregateFields (aggregations : List Aggregation) :
    (aggregations.map fun a => Statement.Column.aggregate a.compile).flatMap Statement.Column.fields =
      (aggregations.filterMap Aggregation.field).map fun r => .resolve r none := by
  induction aggregations with
  | nil => rfl
  | cons a rest ih =>
    rw [List.map_cons, List.flatMap_cons, ih]
    cases present : a.field <;> simp [Statement.Column.fields, Aggregation.compile, present]

theorem columnFields (q : Query) : q.columns.flatMap Statement.Column.fields =
    (if q.fields.isEmpty then [Field.wildcard] else []) ++
      (q.fields ++ q.aggregations.filterMap Aggregation.field).map fun r => .resolve r none := by
  rw [columns, List.flatMap_append, aggregateFields, List.map_append, ← List.append_assoc]
  congr 1
  split
  · rename_i none
    rw [List.isEmpty_iff.mp none]
    rfl
  · exact projectedFields q.fields

@[simp] theorem clauseItems {α β : Type} (compile : α → β) (items : List α) :
    (clause compile items).getD [] = items.map compile := by
  unfold clause
  cases items <;> rfl

theorem conditionFields (s : Filter.Settings) (conditions : List Condition) :
    Operand.fieldsOf (conditions.map fun c => (s.compileCondition c).asOperand) =
      conditions.map fun c => .resolve c.field none := by
  induction conditions with
  | nil => rfl
  | cons c rest ih =>
    rw [List.map_cons, Operand.fieldsOf, ih]
    rfl

mutual

theorem groupFields (s : Filter.Settings) : (g : Group) →
    (g.operation s).fields = g.allConditions.map fun c => .resolve c.field none
  | ⟨operator, conditions, groups⟩ => by
    rw [Group.operation, Operation.fields, Operand.fieldsOfAppend, conditionFields,
      groupsFields s groups, Group.allConditions, List.map_append]

theorem groupsFields (s : Filter.Settings) : (groups : List Group) →
    Operand.fieldsOf (Group.operandsOf s groups) =
      (Group.conditionsOf groups).map fun c => .resolve c.field none
  | [] => rfl
  | g :: rest => by
    have here : (g.operation s).asOperand.fields = (g.operation s).fields := rfl
    rw [Group.operandsOf, Operand.fieldsOf, here, groupFields s g, groupsFields s rest,
      Group.conditionsOf, List.map_append]

end

theorem filterFields (s : Filter.Settings) (f : Filter) :
    (f.operation s).fields = f.conditions.map fun c => .resolve c.field none := by
  cases f with
  | leaf c => rfl
  | group g => exact groupFields s g

structure ResolvedTo (q : Query) (s : Statement) : Prop where
  fields : s.fields = (if q.fields.isEmpty then [.wildcard] else []) ++
    q.references.map fun r => .resolve r none
  joins : List.Forall₂ (fun join compiled =>
    compiled.on.fields = join.references.map fun r => .resolve r.1 r.2) q.joins (s.joins.getD [])

theorem joinsResolved (joins : List Join) : List.Forall₂ (fun join (compiled : Statement.Join) =>
    compiled.on.fields = join.references.map fun r => .resolve r.1 r.2)
    joins (joins.map Join.compile) := by
  induction joins with
  | nil => exact .nil
  | cons join rest ih => exact .cons rfl ih

theorem statementResolved (config : Config) (q : Query) : q.ResolvedTo (q.statement config) where
  fields := by
    have condition : (q.statement config).condition.toList.flatMap Operation.fields =
        (q.filter.toList.flatMap fun f => f.conditions.map Condition.field).map fun r =>
          .resolve r none := by
      rw [statement]
      cases q.filter with
      | none => rfl
      | some f => simp [filterFields]
    have groupBy : (q.statement config).groupBy.getD [] = q.groupBy.map fun r => .resolve r none :=
      clauseItems _ q.groupBy
    have orderBy : ((q.statement config).orderBy.getD []).map Statement.OrderItem.field =
        (q.sort.map SortKey.field).map fun r => .resolve r none := by
      rw [statement, clauseItems]
      simp [SortKey.compile]
    have columns : (q.statement config).columns = q.columns := rfl
    rw [Statement.fields, columns, columnFields, condition, groupBy, orderBy]
    simp [references]
  joins := by
    have joins : (q.statement config).joins.getD [] = q.joins.map Join.compile :=
      clauseItems Join.compile q.joins
    rw [joins]
    exact joinsResolved q.joins

end Query
end QueryTree
