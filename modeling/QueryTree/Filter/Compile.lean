import QueryTree.CompileError
import QueryTree.Operand.Basic

/-! Filters compiled to operations. A condition becomes a comparison of its field with its literal, a
group its connective over its conditions and then its nested groups. An empty group is kept. -/
namespace QueryTree
namespace Filter

structure Settings where
  /-- How deep groups may lie in each other; the outermost one counts as 1. -/
  maxDepth : Nat
  maxNodes : Option Nat
  honorOperators : Bool
  deriving DecidableEq, Repr

def Settings.standard : Settings := ⟨256, none, false⟩

def Settings.comparison (s : Settings) (c : Condition) : Comparison :=
  if s.honorOperators then c.declared?.getD .eq else .eq

def Settings.compileCondition (s : Settings) (c : Condition) : Operation :=
  ⟨.comparison (s.comparison c), [.field (.resolve c.field none), .literal (.ofValue c.value)]⟩

def Settings.visit (s : Settings) (visited : Nat) : Except CompileError Nat :=
  match s.maxNodes with
  | some limit => if limit < visited + 1 then .error (.tooLarge limit) else .ok (visited + 1)
  | none => .ok (visited + 1)

def Settings.compileConditions (s : Settings) :
    (visited : Nat) → List Condition → Except CompileError (List Operand × Nat)
  | visited, [] => .ok ([], visited)
  | visited, c :: rest => do
    let visited ← s.visit visited
    let (operands, visited) ← s.compileConditions visited rest
    return ((s.compileCondition c).asOperand :: operands, visited)

mutual

def Settings.compileGroup (s : Settings) (depth visited : Nat) :
    Group → Except CompileError (Operation × Nat)
  | ⟨operator, conditions, groups⟩ => do
    if s.maxDepth < depth then .error (.tooDeep s.maxDepth)
    else
      let visited ← s.visit visited
      let (operands, visited) ← s.compileConditions visited conditions
      let (nested, visited) ← s.compileGroups (depth + 1) visited groups
      return (⟨.connective operator, operands ++ nested⟩, visited)

def Settings.compileGroups (s : Settings) (depth visited : Nat) :
    List Group → Except CompileError (List Operand × Nat)
  | [] => .ok ([], visited)
  | g :: rest => do
    let (operation, visited) ← s.compileGroup depth visited g
    let (operands, visited) ← s.compileGroups depth visited rest
    return (operation.asOperand :: operands, visited)

end

def compile (s : Settings) : Filter → Except CompileError Operation
  | .leaf c => do
    let _ ← s.visit 0
    return s.compileCondition c
  | .group g => do
    let (operation, _) ← s.compileGroup 1 0 g
    return operation

end Filter
end QueryTree
