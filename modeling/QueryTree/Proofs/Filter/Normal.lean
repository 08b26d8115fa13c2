import QueryTree.Proofs.Field.Text
import QueryTree.Proofs.Filter.Visits

/-! What compiling a filter keeps: all of it but the spellings of the operators. Equality is that of
values, so that a number that differs from itself makes its filter differ too. -/
namespace QueryTree

theorem Operand.beqAllList (operands others : List Operand) :
    Operand.beqAll operands others = (operands == others) := by
  induction operands generalizing others with
  | nil => cases others <;> rfl
  | cons operand rest ih =>
    cases others with
    | nil => rfl
    | cons other others =>
      rw [Operand.beqAll, ih, List.cons_beq_cons]
      rfl

theorem Group.beqAllList (groups others : List Group) :
    Group.beqAll groups others = (groups == others) := by
  induction groups generalizing others with
  | nil => cases others <;> rfl
  | cons g rest ih =>
    cases others with
    | nil => rfl
    | cons other others =>
      rw [Group.beqAll, ih, List.cons_beq_cons]
      rfl

theorem splitSame {α β γ : Type} [BEq β] [BEq γ] {f : α → β} {normal : α → γ}
    (same : ∀ a b, (f a == f b) = (normal a == normal b)) (rest others : List β)
    (apart : ∀ b ∈ rest, ∀ a, (b == f a) = false) (apartOther : ∀ b ∈ others, ∀ a, (f a == b) = false)
    (first second : List α) :
    (first.map f ++ rest == second.map f ++ others) =
      (first.map normal == second.map normal && rest == others) := by
  induction first generalizing second with
  | nil =>
    cases second with
    | nil => rfl
    | cons a second =>
      -- One list goes on with its second part, the other is in its first part still.
      cases rest with
      | nil => rfl
      | cons b rest => simp [apart b List.mem_cons_self a]
  | cons a first ih =>
    cases second with
    | nil =>
      cases others with
      | nil => rfl
      | cons b others => simp [apartOther b List.mem_cons_self a]
    | cons c second => simp [same, ih, Bool.and_assoc]

theorem Value.sameType {v w : Value} (same : (v == w) = true) : v.type = w.type := by
  cases v <;> cases w <;> first | rfl | contradiction

theorem Literal.ofValueSame (v w : Value) : (Literal.ofValue v == Literal.ofValue w) = (v == w) := by
  have parts : (Literal.ofValue v == Literal.ofValue w) = (v == w && v.type == w.type) := rfl
  rw [parts]
  cases same : v == w with
  | false => rfl
  | true => simp [Value.sameType same]

theorem Comparison.symbolSame {a b : Comparison} (same : a.symbol = b.symbol) : a = b := by
  cases a <;> cases b <;> first | rfl | exact absurd same (by decide)

namespace Filter

def Settings.normalCondition (s : Settings) (c : Condition) : Condition :=
  { c with
    operator := if s.honorOperators then some (c.declared?.getD .eq).symbol else none }

end Filter

namespace Group

mutual

def normal (s : Filter.Settings) : Group → Group
  | ⟨operator, conditions, groups⟩ => ⟨operator, conditions.map s.normalCondition, normalAll s groups⟩

def normalAll (s : Filter.Settings) : List Group → List Group
  | [] => []
  | g :: rest => g.normal s :: normalAll s rest

end

end Group

namespace Filter

def normal (s : Settings) : Filter → Filter
  | .leaf c => .leaf (s.normalCondition c)
  | .group g => .group (g.normal s)

theorem comparisonSame (s : Settings) (c d : Condition) : s.comparison c = s.comparison d ↔
    (s.normalCondition c).operator = (s.normalCondition d).operator := by
  unfold Settings.comparison Settings.normalCondition
  by_cases honored : s.honorOperators = true
  · simp only [honored, if_true, Option.some.injEq]
    exact ⟨fun same => by rw [same], Comparison.symbolSame⟩
  · simp [honored]

theorem resolveSame {reference other : String} :
    Field.resolve reference none = Field.resolve other none ↔ reference = other :=
  Field.resolveInjective.eq_iff

theorem conditionSame (s : Settings) (c d : Condition) :
    (s.compileCondition c == s.compileCondition d) =
      (s.normalCondition c == s.normalCondition d) := by
  have compiled : (s.compileCondition c == s.compileCondition d) =
      (Operator.comparison (s.comparison c) == .comparison (s.comparison d) &&
        (Field.resolve c.field none == Field.resolve d.field none &&
          (Literal.ofValue c.value == Literal.ofValue d.value && true))) := rfl
  have normal : (s.normalCondition c == s.normalCondition d) = (c.field == d.field &&
      (c.value == d.value && (s.normalCondition c).operator == (s.normalCondition d).operator)) := rfl
  rw [compiled, normal, Literal.ofValueSame, Bool.eq_iff_iff]
  simp only [Bool.and_eq_true, beq_iff_eq, Operator.comparison.injEq, comparisonSame, resolveSame]
  grind

theorem operandSame (o p : Operation) : (o.asOperand == p.asOperand) = (o == p) := by
  have operand : (o.asOperand == p.asOperand) =
      (o.operator == p.operator && Operand.beqAll o.operands p.operands) := rfl
  rw [operand, Operand.beqAllList]
  rfl

theorem groupApart (s : Settings) (g : Group) (c : Condition) :
    (g.operation s == s.compileCondition c) = false ∧
      (s.compileCondition c == g.operation s) = false := by
  cases g
  exact ⟨rfl, rfl⟩

theorem nestedApart (s : Settings) (groups : List Group) :
    ∀ operand ∈ Group.operandsOf s groups, ∀ c : Condition,
      (operand == (s.compileCondition c).asOperand) = false ∧
      ((s.compileCondition c).asOperand == operand) = false := by
  induction groups with
  | nil => simp [Group.operandsOf]
  | cons g rest ih =>
    intro operand inside c
    rcases List.mem_cons.mp inside with rfl | inside
    · rw [operandSame, operandSame]
      exact groupApart s g c
    · exact ih operand inside c

theorem membersSame (s : Settings) (conditions others : List Condition)
    (groups otherGroups : List Group) :
    (conditions.map (fun c => (s.compileCondition c).asOperand) ++ Group.operandsOf s groups ==
      others.map (fun c => (s.compileCondition c).asOperand) ++ Group.operandsOf s otherGroups) =
    (conditions.map s.normalCondition == others.map s.normalCondition &&
      Group.operandsOf s groups == Group.operandsOf s otherGroups) :=
  splitSame (fun c d => (operandSame _ _).trans (conditionSame s c d)) _ _
    (fun b inside c => (nestedApart s groups b inside c).1)
    (fun b inside c => (nestedApart s otherGroups b inside c).2) conditions others

theorem connectiveSame (a b : Connective) :
    (Operator.connective a == Operator.connective b) = (a == b) := by
  rw [Bool.eq_iff_iff]
  simp

mutual

theorem groupSame (s : Settings) : (g h : Group) →
    (g.operation s == h.operation s) = (g.normal s == h.normal s)
  | ⟨operator, conditions, groups⟩, ⟨other, otherConditions, otherGroups⟩ => by
    rw [Group.operation, Group.operation]
    have nested := groupsSame s groups otherGroups
    have compiled (operands others : List Operand) :
        ((⟨.connective operator, operands⟩ : Operation) == ⟨.connective other, others⟩) =
          (Operator.connective operator == .connective other && operands == others) := rfl
    have normal : (Group.normal s ⟨operator, conditions, groups⟩ ==
        Group.normal s ⟨other, otherConditions, otherGroups⟩) =
        (operator == other && conditions.map s.normalCondition == otherConditions.map s.normalCondition
          && Group.beqAll (Group.normalAll s groups) (Group.normalAll s otherGroups)) := rfl
    rw [compiled, connectiveSame, membersSame, nested, normal, Group.beqAllList, Bool.and_assoc]

theorem groupsSame (s : Settings) : (groups others : List Group) →
    (Group.operandsOf s groups == Group.operandsOf s others) =
      (Group.normalAll s groups == Group.normalAll s others)
  | [], [] => rfl
  | [], _ :: _ => rfl
  | _ :: _, [] => rfl
  | g :: rest, h :: others => by
    rw [Group.operandsOf, Group.operandsOf, Group.normalAll, Group.normalAll, List.cons_beq_cons,
      List.cons_beq_cons, operandSame, groupSame s g h, groupsSame s rest others]

end

theorem filterSame (s : Settings) (f g : Filter) :
    (f.operation s == g.operation s) = (f.normal s == g.normal s) := by
  cases f with
  | leaf c =>
    cases g with
    | leaf d => exact conditionSame s c d
    | group h => exact (groupApart s h c).2
  | group h =>
    cases g with
    | leaf d => exact (groupApart s h d).1
    | group i => exact groupSame s h i

end Filter
end QueryTree
