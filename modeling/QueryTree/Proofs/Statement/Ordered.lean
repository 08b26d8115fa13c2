import QueryTree.Proofs.Filter.Honored
import QueryTree.Proofs.Query.Ordered
import QueryTree.Proofs.Statement.Json

/-! The literals of a statement are the values of its query. What a query was read for is therefore
read back from the JSON of its statement, whose entries are in order as those of the query are. -/
namespace QueryTree

variable {p : Value → Prop}

@[simp] theorem Operand.literalsOfAppend (before after : List Operand) :
    literalsOf (before ++ after) = literalsOf before ++ literalsOf after := by
  induction before with
  | nil => rfl
  | cons operand rest ih => simp [ih]

namespace Filter

theorem conditionLiterals (s : Settings) (conditions : List Condition) :
    Operand.literalsOf (conditions.map fun c => (s.compileCondition c).asOperand) =
      conditions.map fun c => .ofValue c.value := by
  induction conditions with
  | nil => rfl
  | cons c rest ih =>
    rw [List.map_cons, Operand.literalsOf, ih]
    rfl

mutual

theorem groupLiterals (s : Settings) : (g : Group) →
    (g.operation s).literals = g.allConditions.map fun c => .ofValue c.value
  | ⟨operator, conditions, groups⟩ => by
    rw [Group.operation, Operation.literals, Operand.literalsOfAppend, conditionLiterals,
      groupsLiterals s groups, Group.allConditions, List.map_append]

theorem groupsLiterals (s : Settings) : (groups : List Group) →
    Operand.literalsOf (Group.operandsOf s groups) =
      (Group.conditionsOf groups).map fun c => .ofValue c.value
  | [] => rfl
  | g :: rest => by
    have here : (g.operation s).asOperand.literals = (g.operation s).literals := rfl
    rw [Group.operandsOf, Operand.literalsOf, here, groupLiterals s g, groupsLiterals s rest,
      Group.conditionsOf, List.map_append]

end

theorem filterLiterals (s : Settings) (f : Filter) :
    (f.operation s).literals = f.conditions.map fun c => .ofValue c.value := by
  cases f with
  | leaf c => rfl
  | group g => exact groupLiterals s g

theorem conditionsValues {f : Filter} (values : f.Values p) :
    ∀ c ∈ f.conditions, c.value.Everywhere p := by
  intro c listed
  rw [← visitsConditions] at listed
  obtain ⟨visit, inside, same⟩ := List.mem_filterMap.mp listed
  cases visit with
  | group => contradiction
  | condition other =>
    cases same
    exact values c inside

end Filter

namespace Query

theorem joinsLiterals (joins : List Join) :
    (joins.map Join.compile).flatMap (fun join => join.on.literals) = [] := by
  simp [List.flatMap_map, Join.compile, Operation.equation, Operation.literals]

theorem statementValues (config : Config) {q : Query} (values : q.Values p) :
    (q.statement config).Values p := by
  intro l inside
  have joins : (q.statement config).joins.getD [] = q.joins.map Join.compile :=
    clauseItems Join.compile q.joins
  rw [Statement.literals, joins, joinsLiterals, List.append_nil] at inside
  obtain ⟨o, held, among⟩ := List.mem_flatMap.mp inside
  obtain ⟨f, given, rfl⟩ := Option.map_eq_some_iff.mp (Option.mem_toList.mp held)
  rw [Filter.filterLiterals] at among
  obtain ⟨c, listed, rfl⟩ := List.mem_map.mp among
  exact Filter.conditionsValues (values f given) c listed

theorem statementBack {text : String} {config : Config} {q : Query} {s : Statement}
    (read : ofText text = .ok q) (portable : q.Values Value.Portable)
    (built : Compiler.build ⟨config, .identity⟩ q = .ok s) (within : s.toJson.depth ≤ 127) :
    Json.readDocument Statement.read 127 (.ofText s.toJson.compact) = .ok s ∧
    Json.readDocument Statement.read 127 (.ofText s.toJson.pretty) = .ok s := by
  rw [buildIdentity] at built
  cases compiledStatement built
  exact Statement.recoverableBack (Statement.recoverableValues
    (statementValues config (ofTextOrdered read)) (statementValues config portable)) within

end Query
end QueryTree
