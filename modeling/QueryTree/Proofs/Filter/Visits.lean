import QueryTree.Filter.Compile

/-! The nodes of a filter in the order in which they are visited: a group, then its conditions, then
its nested groups, each in the same way. Compiling is a walk over that list, which alone decides
whether a limit stops it, and an operation that no limit has a part in. -/
namespace QueryTree

/-- A node that is visited. The outermost group has depth 1, a condition has none. -/
inductive Visit where
  | group (depth : Nat) (operator : Connective)
  | condition (condition : Condition)
  deriving Repr

def Visit.exceeds (maxDepth : Nat) : Visit → Bool
  | .group depth _ => maxDepth < depth
  | .condition _ => false

namespace Group

mutual

def visits (depth : Nat) : Group → List Visit
  | ⟨operator, conditions, groups⟩ =>
    .group depth operator :: (conditions.map .condition ++ visitsAll (depth + 1) groups)

def visitsAll (depth : Nat) : List Group → List Visit
  | [] => []
  | g :: rest => g.visits depth ++ visitsAll depth rest

end

mutual

def operation (s : Filter.Settings) : Group → Operation
  | ⟨operator, conditions, groups⟩ =>
    ⟨.connective operator,
      conditions.map (fun c => (s.compileCondition c).asOperand) ++ operandsOf s groups⟩

def operandsOf (s : Filter.Settings) : List Group → List Operand
  | [] => []
  | g :: rest => (g.operation s).asOperand :: operandsOf s rest

end

end Group

namespace Filter

def visits : Filter → List Visit
  | .leaf c => [.condition c]
  | .group g => g.visits 1

def operation (s : Settings) : Filter → Operation
  | .leaf c => s.compileCondition c
  | .group g => g.operation s

theorem compileConditionSame {s t : Settings} (same : s.honorOperators = t.honorOperators)
    (c : Condition) : s.compileCondition c = t.compileCondition c := by
  simp only [Settings.compileCondition, Settings.comparison, same]

mutual

theorem groupOperationSame {s t : Settings} (same : s.honorOperators = t.honorOperators) :
    (g : Group) → g.operation s = g.operation t
  | ⟨operator, conditions, groups⟩ => by
    simp only [Group.operation, compileConditionSame same, operandsSame same groups]

theorem operandsSame {s t : Settings} (same : s.honorOperators = t.honorOperators) :
    (groups : List Group) → Group.operandsOf s groups = Group.operandsOf t groups
  | [] => rfl
  | g :: rest => by
    simp only [Group.operandsOf, groupOperationSame same g, operandsSame same rest]

end

theorem operationSame {s t : Settings} (same : s.honorOperators = t.honorOperators) (f : Filter) :
    f.operation s = f.operation t := by
  cases f with
  | leaf c => exact compileConditionSame same c
  | group g => exact groupOperationSame same g

def Settings.walk (s : Settings) (visited : Nat) : List Visit → Except CompileError Nat
  | [] => .ok visited
  | node :: rest => do
    if node.exceeds s.maxDepth then .error (.tooDeep s.maxDepth)
    else s.walk (← s.visit visited) rest

@[simp] theorem walkAppend (s : Settings) (visited : Nat) (before after : List Visit) :
    s.walk visited (before ++ after) =
      (do s.walk (← s.walk visited before) after) := by
  induction before generalizing visited with
  | nil => rfl
  | cons node rest ih =>
    simp only [List.cons_append, Settings.walk]
    split
    · rfl
    · cases s.visit visited with
      | error e => rfl
      | ok visited => exact ih visited

theorem conditionsWalked (s : Settings) (visited : Nat) (conditions : List Condition) :
    s.compileConditions visited conditions =
      (do return (conditions.map fun c => (s.compileCondition c).asOperand,
        ← s.walk visited (conditions.map .condition))) := by
  induction conditions generalizing visited with
  | nil => rfl
  | cons c rest ih =>
    simp only [Settings.compileConditions, List.map_cons, Settings.walk, Visit.exceeds,
      Bool.false_eq_true, if_false]
    cases s.visit visited with
    | error e => rfl
    | ok visited =>
      simp only [bind, Except.bind, ih]
      cases s.walk visited (rest.map .condition) <;> rfl

mutual

theorem groupWalked (s : Settings) (depth visited : Nat) :
    (g : Group) → s.compileGroup depth visited g =
      (do return (g.operation s, ← s.walk visited (g.visits depth)))
  | ⟨operator, conditions, groups⟩ => by
    simp only [Settings.compileGroup, Group.visits, Settings.walk, Visit.exceeds,
      decide_eq_true_eq]
    split
    · rfl
    · cases s.visit visited with
      | error e => rfl
      | ok visited =>
        simp only [bind, Except.bind, conditionsWalked, walkAppend]
        cases s.walk visited (conditions.map .condition) with
        | error e => rfl
        | ok visited =>
          simp only [pure, Except.pure, bind, Except.bind, groupsWalked]
          cases s.walk visited (Group.visitsAll (depth + 1) groups) <;> rfl

theorem groupsWalked (s : Settings) (depth visited : Nat) :
    (groups : List Group) → s.compileGroups depth visited groups =
      (do return (Group.operandsOf s groups, ← s.walk visited (Group.visitsAll depth groups)))
  | [] => rfl
  | g :: rest => by
    simp only [Settings.compileGroups, Group.visitsAll, walkAppend, groupWalked]
    cases s.walk visited (g.visits depth) with
    | error e => rfl
    | ok visited =>
      simp only [pure, Except.pure, bind, Except.bind, groupsWalked]
      cases s.walk visited (Group.visitsAll depth rest) <;> rfl

end

theorem compileWalked (s : Settings) (f : Filter) :
    f.compile s = (do let _ ← s.walk 0 f.visits; return f.operation s) := by
  cases f with
  | leaf c =>
    simp only [compile, visits, Settings.walk, Visit.exceeds, Bool.false_eq_true, if_false]
    cases s.visit 0 <;> rfl
  | group g =>
    simp only [compile, visits, groupWalked]
    cases s.walk 0 (g.visits 1) <;> rfl

theorem compiledOperation {s : Settings} {f : Filter} {o : Operation}
    (compiled : f.compile s = .ok o) : o = f.operation s := by
  rw [compileWalked] at compiled
  cases walked : s.walk 0 f.visits with
  | error e => rw [walked] at compiled; contradiction
  | ok visited => rw [walked] at compiled; cases compiled; rfl

end Filter
end QueryTree
