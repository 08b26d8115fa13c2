import QueryTree.Proofs.Filter.Honored

/-! Counting the conditions of a filter. The groups that wait stand for all conditions in them, so that a
visit moves conditions from the waiting to the counted ones, and the filter is counted after as many
visits as it has groups. -/
namespace QueryTree

namespace Operation

def isEquality (o : Operation) : Bool := o.operator == .comparison .eq && o.operands.length == 2

def equalities (o : Operation) : Nat := o.asOperand.preorder.countP isEquality

end Operation

@[simp] theorem Group.conditionsOfReverse (groups : List Group) :
    (conditionsOf groups.reverse).length = (conditionsOf groups).length := by
  induction groups with
  | nil => rfl
  | cons g rest ih =>
    rw [List.reverse_cons, conditionsOfAppend, List.length_append, ih, conditionsOf, conditionsOf,
      conditionsOf, List.append_nil, List.length_append, Nat.add_comm]

namespace Filter

namespace Tally

def total (tally : Tally) : Nat := tally.counted + (Group.conditionsOf tally.waiting).length

theorem nextTotal {tally next : Tally} (step : tally.next? = some next) : next.total = tally.total := by
  obtain ⟨counted, waiting⟩ := tally
  cases waiting with
  | nil => contradiction
  | cons g rest =>
    obtain ⟨operator, conditions, groups⟩ := g
    cases Option.some.inj step
    simp [total]
    omega

theorem nextNone {tally : Tally} (ends : tally.next? = none) : tally.waiting = [] := by
  obtain ⟨counted, waiting⟩ := tally
  cases waiting with
  | nil => rfl
  | cons g rest =>
    obtain ⟨operator, conditions, groups⟩ := g
    contradiction

theorem endTotal {tally : Tally} (ends : tally.next? = none) : tally.total = tally.counted := by
  rw [total, nextNone ends]
  rfl

theorem runTotal (tally : Tally) : tally.run = tally.total := by
  fun_induction run tally with
  | case1 tally ends => exact (endTotal ends).symm
  | case2 tally next step _ ih => rw [ih, nextTotal step]

def after : Nat → Tally → Option Tally
  | 0, tally => some tally
  | visits + 1, tally => tally.next?.bind (after visits)

theorem afterAll {visits : Nat} {tally : Tally} (size : Group.sizeAll tally.waiting = visits) :
    tally.after visits = some ⟨tally.total, []⟩ := by
  induction visits generalizing tally with
  | zero =>
    obtain ⟨counted, waiting⟩ := tally
    cases waiting with
    | nil => rfl
    | cons g rest =>
      obtain ⟨operator, conditions, groups⟩ := g
      simp at size
  | succ visits ih =>
    cases step : tally.next? with
    | none =>
      rw [nextNone step] at size
      contradiction
    | some next =>
      -- A visit takes one group away, however many others it brings to light.
      have smaller := nextSize step
      rw [after, step, Option.bind_some, ih (by omega), nextTotal step]

end Tally

theorem countedConditions (f : Filter) : f.countConditions = f.conditions.length := by
  cases f with
  | leaf c => rfl
  | group g =>
    rw [countConditions, Tally.runTotal]
    simp [Tally.total, conditions]

theorem countedAfter (g : Group) :
    Tally.after g.size ⟨0, [g]⟩ = some ⟨(Filter.group g).conditions.length, []⟩ := by
  have size : Group.sizeAll [g] = g.size := by simp
  rw [Tally.afterAll size]
  simp [Tally.total, conditions]

theorem comparedConditions (s : Settings) (f : Filter) :
    (f.operation s).comparisons.length = f.conditions.length := by
  rw [operationComparisons, List.length_map]

theorem equalitiesStand {nodes : List Visit} {operations : List Operation}
    (stand : List.Forall₂ Stands nodes operations) : operations.countP Operation.isEquality =
      ((operations.map Operation.operator).filterMap Operator.comparison?).count .eq := by
  induction stand with
  | nil => rfl
  | @cons node o nodes operations first _ ih =>
    obtain ⟨operator, operands⟩ := o
    cases operator with
    | connective c => simpa [Operation.isEquality, Operator.comparison?, List.filterMap_cons] using ih
    | comparison c =>
      cases node with
      | group depth operator => contradiction
      | condition condition =>
        have compared : condition.ComparedBy ⟨.comparison c, operands⟩ := first
        obtain ⟨field, literal, same, _⟩ := compared.operands
        cases same
        simp [Operation.isEquality, Operator.comparison?, List.countP_cons, List.count_cons, ih]

theorem equalitiesCompared (s : Settings) (f : Filter) :
    (f.operation s).equalities = (f.operation s).comparisons.count .eq :=
  equalitiesStand (mirroredStands (operationMirrored s f)).2

theorem plainEqualities {s : Settings} (plain : s.honorOperators = false) (f : Filter) :
    (f.operation s).equalities = f.conditions.length := by
  have each : s.comparison = fun _ => .eq := funext (comparisonPlain plain)
  rw [equalitiesCompared, operationComparisons, each, List.map_const', List.count_replicate_self]

end Filter
end QueryTree
