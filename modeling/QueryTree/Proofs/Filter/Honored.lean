import QueryTree.Proofs.Filter.Form
import QueryTree.Proofs.Query.Fields

/-! Honouring the operators that conditions declare. It decides which comparisons a compiled filter
makes, and nothing else: neither its shape nor whether a limit refuses it. -/
namespace QueryTree

namespace Comparison

def SpelledBy (text : String) (c : Comparison) : Prop :=
  (Text.trim text).toLower ∈ c.symbol :: c.aliases

theorem memberOfAll (c : Comparison) : c ∈ all := by cases c <;> decide

theorem spellingsApart : ∀ c ∈ all, ∀ d ∈ all, ∀ word ∈ c.symbol :: c.aliases,
    word ∈ d.symbol :: d.aliases → c = d := by decide

theorem ofSpellingExact {word : String} {c : Comparison} :
    ofSpelling? word = some c ↔ word ∈ c.symbol :: c.aliases := by
  have spells (d : Comparison) : (d.symbol == word || d.aliases.contains word) = true ↔
      word ∈ d.symbol :: d.aliases := by
    rw [Bool.or_eq_true, beq_iff_eq, List.contains_iff_mem, List.mem_cons, eq_comm]
  unfold ofSpelling?
  constructor
  · intro found
    have named := List.find?_some found
    exact (spells c).mp named
  · intro spelled
    cases found : all.find? fun d => d.symbol == word || d.aliases.contains word with
    | none => exact absurd ((spells c).mpr spelled) (List.find?_eq_none.mp found c (memberOfAll c))
    | some d =>
      have named := List.find?_some found
      rw [spellingsApart c (memberOfAll c) d (memberOfAll d) word spelled ((spells d).mp named)]

/- Declared words and names in JSON stand in tables of their own, which list the same. -/
theorem ofWordExact {word : String} {c : Comparison} :
    ofWord? word = some c ↔ word ∈ c.symbol :: c.aliases := by
  constructor
  · intro found
    unfold ofWord? at found
    split at found <;> cases found <;> decide
  · intro spelled
    have listed : ∀ spelling ∈ c.symbol :: c.aliases, ofWord? spelling = some c := by
      cases c <;> decide
    exact listed word spelled

end Comparison

namespace Condition

inductive Declares (c : Condition) : Comparison → Prop where
  | absent (undeclared : c.operator = none) : Declares c .eq
  | named {text : String} {comparison : Comparison} (declared : c.operator = some text)
      (spelled : comparison.SpelledBy text) : Declares c comparison
  | unknown {text : String} (declared : c.operator = some text)
      (unspelled : ∀ comparison : Comparison, ¬ comparison.SpelledBy text) : Declares c .eq

theorem declaresExact (c : Condition) (comparison : Comparison) :
    c.Declares comparison ↔ comparison = c.declared?.getD .eq := by
  have spells {text : String} {d : Comparison} :
      d.SpelledBy text ↔ Comparison.ofDeclared? text = some d := Comparison.ofWordExact.symm
  constructor
  · intro declares
    cases declares with
    | absent undeclared => simp [declared?, undeclared]
    | named declared spelled => simp [declared?, declared, spells.mp spelled]
    | @unknown text declared unspelled =>
      have none : Comparison.ofDeclared? text = none :=
        Option.eq_none_iff_forall_ne_some.mpr fun d found => unspelled d (spells.mpr found)
      simp [declared?, declared, none]
  · rintro rfl
    cases declared : c.operator with
    | none => simpa [declared?, declared] using Declares.absent declared
    | some text =>
      cases found : Comparison.ofDeclared? text with
      | some d => simpa [declared?, declared, found] using Declares.named declared (spells.mpr found)
      | none =>
        have unspelled (d : Comparison) : ¬ d.SpelledBy text := fun spelled => by
          rw [spells.mp spelled] at found
          contradiction
        simpa [declared?, declared, found] using Declares.unknown declared unspelled

def undeclared (c : Condition) : Condition := { c with operator := none }

end Condition

namespace Group

mutual

def undeclared : Group → Group
  | ⟨operator, conditions, groups⟩ =>
    ⟨operator, conditions.map Condition.undeclared, undeclaredAll groups⟩

def undeclaredAll : List Group → List Group
  | [] => []
  | g :: rest => g.undeclared :: undeclaredAll rest

end

end Group

def Filter.undeclared : Filter → Filter
  | .leaf c => .leaf c.undeclared
  | .group g => .group g.undeclared

def Visit.undeclared : Visit → Visit
  | .group depth operator => .group depth operator
  | .condition c => .condition c.undeclared

def Operator.equated : Operator → Operator
  | .connective c => .connective c
  | .comparison _ => .comparison .eq

def Operator.comparison? : Operator → Option Comparison
  | .connective _ => none
  | .comparison c => some c

namespace Operand

mutual

def equated : Operand → Operand
  | .operation operator operands => .operation operator.equated (equatedAll operands)
  | .field f => .field f
  | .literal l => .literal l

def equatedAll : List Operand → List Operand
  | [] => []
  | operand :: rest => operand.equated :: equatedAll rest

end

@[simp] theorem equatedAppend (before after : List Operand) :
    equatedAll (before ++ after) = equatedAll before ++ equatedAll after := by
  induction before with
  | nil => rfl
  | cons operand rest ih => simp [equatedAll, ih]

end Operand

namespace Operation

def equated (o : Operation) : Operation := ⟨o.operator.equated, Operand.equatedAll o.operands⟩

theorem equatedOperand (o : Operation) : o.asOperand.equated = o.equated.asOperand := rfl

def comparisons (o : Operation) : List Comparison :=
  (o.asOperand.preorder.map Operation.operator).filterMap Operator.comparison?

end Operation

namespace Filter

theorem comparisonUndeclared (s : Settings) (c : Condition) : s.comparison c.undeclared = .eq := by
  unfold Settings.comparison
  split <;> rfl

theorem comparisonPlain {s : Settings} (plain : s.honorOperators = false) (c : Condition) :
    s.comparison c = .eq := by simp [Settings.comparison, plain]

theorem comparisonHonored {s : Settings} (honors : s.honorOperators = true) (c : Condition) :
    s.comparison c = c.declared?.getD .eq := by simp [Settings.comparison, honors]

theorem conditionEquated (s t : Settings) (c : Condition) :
    (s.compileCondition c).equated = t.compileCondition c.undeclared := by
  rw [Settings.compileCondition, Settings.compileCondition, comparisonUndeclared]
  rfl

theorem conditionsEquated (s t : Settings) (conditions : List Condition) :
    Operand.equatedAll (conditions.map fun c => (s.compileCondition c).asOperand) =
      (conditions.map Condition.undeclared).map fun c => (t.compileCondition c).asOperand := by
  induction conditions with
  | nil => rfl
  | cons c rest ih =>
    rw [List.map_cons, Operand.equatedAll, ih, Operation.equatedOperand, conditionEquated s t]
    rfl

mutual

theorem groupEquated (s t : Settings) : (g : Group) →
    (g.operation s).equated = g.undeclared.operation t
  | ⟨operator, conditions, groups⟩ => by
    rw [Group.undeclared, Group.operation, Group.operation, ← groupsEquated s t groups,
      ← conditionsEquated s t, ← Operand.equatedAppend]
    rfl

theorem groupsEquated (s t : Settings) : (groups : List Group) →
    Operand.equatedAll (Group.operandsOf s groups) = Group.operandsOf t (Group.undeclaredAll groups)
  | [] => rfl
  | g :: rest => by
    rw [Group.operandsOf, Group.undeclaredAll, Group.operandsOf, Operand.equatedAll,
      Operation.equatedOperand, groupEquated s t g, groupsEquated s t rest]

end

theorem operationEquated (s t : Settings) (f : Filter) :
    (f.operation s).equated = f.undeclared.operation t := by
  cases f with
  | leaf c => exact conditionEquated s t c
  | group g => exact groupEquated s t g

mutual

theorem groupUndeclared (depth : Nat) : (g : Group) →
    g.undeclared.visits depth = (g.visits depth).map Visit.undeclared
  | ⟨operator, conditions, groups⟩ => by
    simp [Group.undeclared, Group.visits, groupsUndeclared (depth + 1) groups, Visit.undeclared,
      Function.comp_def]

theorem groupsUndeclared (depth : Nat) : (groups : List Group) →
    Group.visitsAll depth (Group.undeclaredAll groups) =
      (Group.visitsAll depth groups).map Visit.undeclared
  | [] => rfl
  | g :: rest => by
    rw [Group.undeclaredAll, Group.visitsAll, Group.visitsAll, List.map_append,
      groupUndeclared depth g, groupsUndeclared depth rest]

end

theorem visitsUndeclared (f : Filter) : f.undeclared.visits = f.visits.map Visit.undeclared := by
  cases f with
  | leaf c => rfl
  | group g => exact groupUndeclared 1 g

theorem walkUndeclared (maxDepth : Nat) (maxNodes : Option Nat) (honor other : Bool) (visited : Nat)
    (nodes : List Visit) : Settings.walk ⟨maxDepth, maxNodes, honor⟩ visited nodes =
      Settings.walk ⟨maxDepth, maxNodes, other⟩ visited (nodes.map Visit.undeclared) := by
  induction nodes generalizing visited with
  | nil => rfl
  | cons node rest ih =>
    -- Neither the depth of a node nor the count of nodes depends on the flag.
    have depth : node.undeclared.exceeds maxDepth = node.exceeds maxDepth := by cases node <;> rfl
    have count : Settings.visit ⟨maxDepth, maxNodes, honor⟩ visited =
      Settings.visit ⟨maxDepth, maxNodes, other⟩ visited := rfl
    simp only [List.map_cons, Settings.walk, depth, count]
    split
    · rfl
    · cases Settings.visit ⟨maxDepth, maxNodes, other⟩ visited with
      | error e => rfl
      | ok visited => exact ih visited

theorem compileEquated (maxDepth : Nat) (maxNodes : Option Nat) (honor other : Bool) (f : Filter) :
    (f.compile ⟨maxDepth, maxNodes, honor⟩).map Operation.equated =
      f.undeclared.compile ⟨maxDepth, maxNodes, other⟩ := by
  rw [compileWalked, compileWalked, visitsUndeclared, ← walkUndeclared maxDepth maxNodes honor other,
    ← operationEquated ⟨maxDepth, maxNodes, honor⟩]
  cases Settings.walk ⟨maxDepth, maxNodes, honor⟩ 0 f.visits <;> rfl

def Settings.operatorOf (s : Settings) : Visit → Operator
  | .group _ operator => .connective operator
  | .condition c => .comparison (s.comparison c)

theorem conditionOperators (s : Settings) (conditions : List Condition) :
    (Operand.preorderAll (conditions.map fun c => (s.compileCondition c).asOperand)).map
      Operation.operator = (conditions.map Visit.condition).map s.operatorOf := by
  induction conditions with
  | nil => rfl
  | cons c rest ih =>
    rw [List.map_cons, Operand.preorderAll, comparedPreorder (conditionCompared s c), List.map_append,
      ih]
    rfl

mutual

theorem groupOperators (s : Settings) (depth : Nat) : (g : Group) →
    (g.operation s).asOperand.preorder.map Operation.operator = (g.visits depth).map s.operatorOf
  | ⟨operator, conditions, groups⟩ => by
    rw [Group.operation, Operation.asOperand, Operand.preorder, Operand.preorderAppend, Group.visits,
      List.map_cons, List.map_cons, List.map_append, List.map_append, conditionOperators,
      groupsOperators s (depth + 1) groups]
    rfl

theorem groupsOperators (s : Settings) (depth : Nat) : (groups : List Group) →
    (Operand.preorderAll (Group.operandsOf s groups)).map Operation.operator =
      (Group.visitsAll depth groups).map s.operatorOf
  | [] => rfl
  | g :: rest => by
    rw [Group.operandsOf, Operand.preorderAll, Group.visitsAll, List.map_append, List.map_append,
      groupOperators s depth g, groupsOperators s depth rest]

end

theorem operationOperators (s : Settings) (f : Filter) :
    (f.operation s).asOperand.preorder.map Operation.operator = f.visits.map s.operatorOf := by
  cases f with
  | leaf c =>
    rw [operation, comparedPreorder (conditionCompared s c)]
    rfl
  | group g => exact groupOperators s 1 g

mutual

theorem groupConditions (depth : Nat) : (g : Group) →
    (g.visits depth).filterMap Visit.condition? = g.allConditions
  | ⟨operator, conditions, groups⟩ => by
    have own : (conditions.map Visit.condition).filterMap Visit.condition? = conditions := by
      rw [List.filterMap_map]
      exact List.filterMap_some
    rw [Group.visits, Group.allConditions, List.filterMap_cons_none rfl, List.filterMap_append, own,
      groupsConditions (depth + 1) groups]

theorem groupsConditions (depth : Nat) : (groups : List Group) →
    (Group.visitsAll depth groups).filterMap Visit.condition? = Group.conditionsOf groups
  | [] => rfl
  | g :: rest => by
    rw [Group.visitsAll, Group.conditionsOf, List.filterMap_append, groupConditions depth g,
      groupsConditions depth rest]

end

theorem visitsConditions (f : Filter) : f.visits.filterMap Visit.condition? = f.conditions := by
  cases f with
  | leaf c => rfl
  | group g => exact groupConditions 1 g

theorem operationComparisons (s : Settings) (f : Filter) :
    (f.operation s).comparisons = f.conditions.map s.comparison := by
  have each : Operator.comparison? ∘ s.operatorOf =
      fun node => node.condition?.map s.comparison := by
    funext node
    cases node <;> rfl
  rw [Operation.comparisons, operationOperators, List.filterMap_map, each, ← visitsConditions,
    List.map_filterMap]

/-- Whether declared operators are honoured or not, a filter is refused alike, or gives operations
that differ in the operators of comparisons alone: what is left without those operators is what the
filter gives without any declared spelling. The comparisons are for equality when declared operators
are not honoured, and else each is the one that its condition declares. -/
theorem operatorsOnly (f : Filter) (maxDepth : Nat) (maxNodes : Option Nat) :
    let plain : Settings := ⟨maxDepth, maxNodes, false⟩
    let honoring : Settings := ⟨maxDepth, maxNodes, true⟩
    (f.compile plain).map Operation.equated = f.undeclared.compile plain ∧
    (f.compile honoring).map Operation.equated = f.undeclared.compile plain ∧
    ((∃ e, f.compile plain = .error e ∧ f.compile honoring = .error e) ∨
      ∃ o p, f.compile plain = .ok o ∧ f.compile honoring = .ok p ∧ o.equated = p.equated ∧
        o.comparisons = f.conditions.map (fun _ => .eq) ∧
        List.Forall₂ (fun c comparison => ∀ other, c.Declares other ↔ other = comparison)
          f.conditions p.comparisons) := by
  intro plain honoring
  have left := compileEquated maxDepth maxNodes false false f
  have right := compileEquated maxDepth maxNodes true false f
  have alike : (f.compile plain).map Operation.equated = (f.compile honoring).map Operation.equated :=
    left.trans right.symm
  refine ⟨left, right, ?_⟩
  cases without : f.compile plain with
  | error e =>
    cases honored : f.compile honoring with
    | error reason =>
      rw [without, honored] at alike
      exact .inl ⟨e, rfl, alike.symm⟩
    | ok p => rw [without, honored] at alike; contradiction
  | ok o =>
    cases honored : f.compile honoring with
    | error reason => rw [without, honored] at alike; contradiction
    | ok p =>
      rw [without, honored] at alike
      refine .inr ⟨o, p, rfl, rfl, Except.ok.inj alike, ?_, ?_⟩
      · rw [compiledOperation without, operationComparisons]
        exact List.map_congr_left fun c _ => comparisonPlain rfl c
      · rw [compiledOperation honored, operationComparisons]
        refine List.forall₂_map_right_iff.mpr (List.forall₂_same.mpr fun c _ other => ?_)
        rw [comparisonHonored rfl, c.declaresExact]

end Filter
end QueryTree
