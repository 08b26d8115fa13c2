import QueryTree.Operator
import QueryTree.Value.Basic

/-! Filters of a query: a single condition, or conditions in groups under connectives. -/
namespace QueryTree

structure Condition where
  field : String
  value : Value
  operator : Option String
  deriving Repr, BEq

structure Group where
  operator : Connective
  conditions : List Condition
  groups : List Group
  deriving Repr

inductive Filter where
  | leaf (condition : Condition)
  | group (group : Group)
  deriving Repr

def Condition.declared? (c : Condition) : Option Comparison :=
  c.operator.bind Comparison.ofDeclared?

def Condition.withOperator (c : Condition) (operator : Comparison) : Condition :=
  { c with operator := some operator.symbol }

namespace Group

def new (operator : Connective) : Group := ⟨operator, [], []⟩

def condition (g : Group) (c : Condition) : Group :=
  { g with conditions := g.conditions ++ [c] }

def equals (g : Group) (field : String) (value : Value) : Group :=
  g.condition ⟨field, value, none⟩

def nest (g : Group) (nested : Group) : Group :=
  { g with groups := g.groups ++ [nested] }

mutual

def beq : Group → Group → Bool
  | ⟨p, cs, gs⟩, ⟨q, ds, hs⟩ => p == q && cs == ds && beqAll gs hs

def beqAll : List Group → List Group → Bool
  | [], [] => true
  | g :: gs, h :: hs => beq g h && beqAll gs hs
  | _, _ => false

end

instance : BEq Group := ⟨beq⟩

mutual

@[simp] def size : Group → Nat
  | ⟨_, _, groups⟩ => 1 + sizeAll groups

@[simp] def sizeAll : List Group → Nat
  | [] => 0
  | g :: rest => g.size + sizeAll rest

end

@[simp] theorem sizeAllAppend (before after : List Group) :
    sizeAll (before ++ after) = sizeAll before + sizeAll after := by
  induction before with
  | nil => simp
  | cons g rest ih => simp [ih]; omega

@[simp] theorem sizeAllReverse (groups : List Group) : sizeAll groups.reverse = sizeAll groups := by
  induction groups with
  | nil => rfl
  | cons g rest ih => simp [ih]; omega

end Group

namespace Filter

def beq : Filter → Filter → Bool
  | .leaf c, .leaf d => c == d
  | .group g, .group h => g == h
  | _, _ => false

instance : BEq Filter := ⟨beq⟩

structure Tally where
  counted : Nat
  waiting : List Group

/-- Visits the next group. Those nested in it come before the others, the last of them first. -/
def Tally.next? : Tally → Option Tally
  | ⟨_, []⟩ => none
  | ⟨counted, ⟨_, conditions, groups⟩ :: waiting⟩ =>
    some ⟨counted + conditions.length, groups.reverse ++ waiting⟩

theorem Tally.nextSize {tally next : Tally} (step : tally.next? = some next) :
    Group.sizeAll next.waiting + 1 = Group.sizeAll tally.waiting := by
  obtain ⟨counted, waiting⟩ := tally
  cases waiting with
  | nil => contradiction
  | cons g rest =>
    obtain ⟨operator, conditions, groups⟩ := g
    cases Option.some.inj step
    simp
    omega

def Tally.run (tally : Tally) : Nat :=
  match step : tally.next? with
  | none => tally.counted
  | some next =>
    have := nextSize step
    next.run
termination_by Group.sizeAll tally.waiting
decreasing_by omega

def countConditions : Filter → Nat
  | .leaf _ => 1
  | .group g => Tally.run ⟨0, [g]⟩

end Filter
end QueryTree
