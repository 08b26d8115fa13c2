import QueryTree.Filter.Basic

/-! Groups that are built call by call. A group depends on its conditions in order and on its nested
groups in order, and not on how the calls for these two are mixed. -/
namespace QueryTree
namespace Group

inductive Call where
  | equals (field : String) (value : Value)
  | condition (condition : Condition)
  | nest (operator : Connective) (calls : List Call)

mutual

def Call.apply (g : Group) : Call → Group
  | .equals field value => g.equals field value
  | .condition c => g.condition c
  | .nest operator calls => g.nest (applyAll (new operator) calls)

def applyAll (g : Group) : List Call → Group
  | [] => g
  | call :: rest => applyAll (call.apply g) rest

end

def build (operator : Connective) (calls : List Call) : Group := applyAll (new operator) calls

def Call.condition? : Call → Option Condition
  | .equals field value => some ⟨field, value, none⟩
  | .condition c => some c
  | .nest _ _ => none

def Call.nested? : Call → Option (Connective × List Call)
  | .nest operator calls => some (operator, calls)
  | _ => none

mutual

inductive Agree : List Call → List Call → Prop where
  | intro {calls others : List Call}
      (conditions : calls.filterMap Call.condition? = others.filterMap Call.condition?)
      (nested : AllAgree (calls.filterMap Call.nested?) (others.filterMap Call.nested?)) :
      Agree calls others

inductive AllAgree : List (Connective × List Call) → List (Connective × List Call) → Prop where
  | nil : AllAgree [] []
  | cons {operator : Connective} {calls others : List Call} {rest more : List (Connective × List Call)}
      (head : Agree calls others) (tail : AllAgree rest more) :
      AllAgree ((operator, calls) :: rest) ((operator, others) :: more)

end

theorem callApplied (g : Group) (call : Call) : call.apply g =
    ⟨g.operator, g.conditions ++ call.condition?.toList,
      g.groups ++ (call.nested?.map fun nested => build nested.1 nested.2).toList⟩ := by
  cases call <;> simp [Call.apply, equals, condition, nest, build, Call.condition?, Call.nested?]

theorem callsApplied (g : Group) (calls : List Call) : applyAll g calls =
    ⟨g.operator, g.conditions ++ calls.filterMap Call.condition?,
      g.groups ++ (calls.filterMap Call.nested?).map fun nested => build nested.1 nested.2⟩ := by
  induction calls generalizing g with
  | nil =>
    obtain ⟨operator, conditions, groups⟩ := g
    simp [applyAll]
  | cons call rest ih =>
    rw [applyAll, ih, callApplied]
    cases call <;> simp [Call.condition?, Call.nested?, List.filterMap_cons]

theorem built (operator : Connective) (calls : List Call) : build operator calls =
    ⟨operator, calls.filterMap Call.condition?,
      (calls.filterMap Call.nested?).map fun nested => build nested.1 nested.2⟩ := by
  rw [build, callsApplied]
  simp [new]

mutual

theorem agreeBuilt (operator : Connective) {calls others : List Call} :
    Agree calls others → build operator calls = build operator others
  | .intro conditions nested => by rw [built, conditions, allAgreeBuilt nested, ← built]

theorem allAgreeBuilt {nested others : List (Connective × List Call)} :
    AllAgree nested others →
      (nested.map fun one => build one.1 one.2) = others.map fun one => build one.1 one.2
  | .nil => rfl
  | .cons head tail => by rw [List.map_cons, List.map_cons, agreeBuilt _ head, allAgreeBuilt tail]

end

end Group
end QueryTree
