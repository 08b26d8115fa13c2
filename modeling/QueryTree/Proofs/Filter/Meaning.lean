import QueryTree.Proofs.Field.Strict
import QueryTree.Proofs.Filter.Visits
import QueryTree.Proofs.Operand.Phrase

/-! What a compiled filter says can be read off its text. -/
namespace QueryTree

def Condition.Strict (c : Condition) : Prop :=
  ∃ reference, Reference.parse c.field = .ok reference

def Filter.Strict (f : Filter) : Prop := ∀ c, .condition c ∈ f.visits → c.Strict

theorem referenceNoMark {c : Char} (inside : Reference.isReferenceChar c = true) :
    isMark c = false := by
  rw [Bool.eq_false_iff]
  intro mark
  simp only [isMark, Bool.or_eq_true, decide_eq_true_eq] at mark
  rcases mark with (((rfl | rfl) | rfl) | rfl) | rfl <;> revert inside <;> decide +kernel

def Condition.word (c : Condition) (strict : c.Strict) : Word where
  letters := c.field.toList
  filled := by
    obtain ⟨reference, parsed⟩ := strict
    exact (Reference.parsedCharacters parsed).1
  plain := by
    obtain ⟨reference, parsed⟩ := strict
    intro d inside
    exact referenceNoMark ((Reference.parsedCharacters parsed).2 d inside)

namespace Filter

structure Says (operand : Operand) (phrase : Phrase) : Prop where
  text : operand.text.toList = phrase.write
  formula : operand.formula? = some phrase.formula

structure SayAll (operands : List Operand) (phrases : List Phrase) : Prop where
  texts : (Operand.textsOf operands).map String.toList = phrases.map Phrase.write
  formulas : Operand.formulas? operands = some (Phrase.formulas phrases)

theorem sayNone : SayAll [] [] := ⟨rfl, rfl⟩

theorem sayMore {operand : Operand} {phrase : Phrase} {operands : List Operand}
    {phrases : List Phrase} (told : Says operand phrase) (sayAll : SayAll operands phrases) :
    SayAll (operand :: operands) (phrase :: phrases) where
  texts := by rw [Operand.textsOf, List.map_cons, List.map_cons, told.text, sayAll.texts]
  formulas := by
    rw [Operand.formulas?, told.formula, sayAll.formulas]
    rfl

theorem connectiveSays {c : Connective} {operands : List Operand} {phrases : List Phrase}
    (sayAll : SayAll operands phrases) :
    Says (.operation (.connective c) operands) (Phrase.ofConnective c phrases) where
  text := by rw [Operand.text, Phrase.ofConnectiveText sayAll.texts]
  formula := by
    rw [Operand.formula?, sayAll.formulas, Phrase.ofConnectiveFormula]
    rfl

theorem conditionSays (s : Settings) {c : Condition} (strict : c.Strict) :
    Says (s.compileCondition c).asOperand
      (.comparison (c.word strict) (s.comparison c) c.value.wording) where
  text := by
    simp [Settings.compileCondition, Operation.asOperand, Operand.text, Operand.textsOf, Operation.write, Literal.ofValue, Phrase.write, Condition.word, Value.textWorded]
  formula := by
    simp [Settings.compileCondition, Operation.asOperand, Operand.formula?, Literal.ofValue, Phrase.formula, Condition.word, ← Value.textWorded]

theorem conditionsSay (s : Settings) {conditions : List Condition} {operands : List Operand}
    {phrases : List Phrase} (strict : ∀ c ∈ conditions, c.Strict)
    (sayAll : SayAll operands phrases) :
    ∃ more, SayAll (conditions.map (fun c => (s.compileCondition c).asOperand) ++ operands) more := by
  induction conditions with
  | nil => exact ⟨phrases, sayAll⟩
  | cons c rest ih =>
    obtain ⟨more, later⟩ := ih fun d inside => strict d (List.mem_cons_of_mem _ inside)
    exact ⟨_, sayMore (conditionSays s (strict c List.mem_cons_self)) later⟩

mutual

theorem groupSays (s : Settings) : (g : Group) → (depth : Nat) →
    (∀ c, .condition c ∈ g.visits depth → c.Strict) →
    ∃ phrase, Says (g.operation s).asOperand phrase
  | ⟨operator, conditions, groups⟩, depth, strict => by
    obtain ⟨nested, nestedSay⟩ := groupsSay s groups (depth + 1) fun c inside =>
      strict c (List.mem_cons_of_mem _ (List.mem_append_right _ inside))
    have strictHere : ∀ c ∈ conditions, c.Strict := fun c inside =>
      strict c (List.mem_cons_of_mem _ (List.mem_append_left _ (List.mem_map_of_mem inside)))
    obtain ⟨phrases, sayAll⟩ := conditionsSay s strictHere nestedSay
    exact ⟨_, connectiveSays sayAll⟩

theorem groupsSay (s : Settings) : (groups : List Group) → (depth : Nat) →
    (∀ c, .condition c ∈ Group.visitsAll depth groups → c.Strict) →
    ∃ phrases, SayAll (Group.operandsOf s groups) phrases
  | [], depth, strict => ⟨[], sayNone⟩
  | g :: rest, depth, strict => by
    obtain ⟨phrase, told⟩ := groupSays s g depth fun c inside =>
      strict c (List.mem_append_left _ inside)
    obtain ⟨phrases, sayAll⟩ := groupsSay s rest depth fun c inside =>
      strict c (List.mem_append_right _ inside)
    exact ⟨_, sayMore told sayAll⟩

end

theorem compiledSays {s : Settings} {f : Filter} {o : Operation} (strict : f.Strict)
    (compiled : f.compile s = .ok o) : ∃ phrase, Says o.asOperand phrase := by
  rw [compiledOperation compiled]
  cases f with
  | leaf c => exact ⟨_, conditionSays s (strict c List.mem_cons_self)⟩
  | group g => exact groupSays s g 1 strict

theorem textMeaning {f g : Filter} {s t : Settings} {o p : Operation}
    (strict : f.Strict) (strictOther : g.Strict)
    (compiled : f.compile s = .ok o) (compiledOther : g.compile t = .ok p)
    (same : o.text = p.text) :
    ∃ formula, o.formula? = some formula ∧ p.formula? = some formula ∧
      ∀ truth : Atom → Bool, o.holds truth = p.holds truth := by
  obtain ⟨phrase, told⟩ := compiledSays strict compiled
  obtain ⟨other, saysOther⟩ := compiledSays strictOther compiledOther
  have equal : phrase = other := by
    apply Phrase.writeInjective
    rw [← told.text, ← saysOther.text]
    exact congrArg String.toList same
  subst equal
  refine ⟨phrase.formula, told.formula, saysOther.formula, fun truth => ?_⟩
  have left := Operand.formulaHolds truth _ _ told.formula
  have right := Operand.formulaHolds truth _ _ saysOther.formula
  exact left.trans right.symm

/- A condition with brackets and a connective in its value, under a negation, alone and as the only
part of a further group: the texts do not differ, nor does the meaning. -/
def bracketed : Condition := ⟨"NOT.name", .string "it's ) AND (", some " LIKE "⟩

def negated : Group := ⟨.not, [bracketed], []⟩

set_option maxRecDepth 8000 in
theorem bracketedStrict : bracketed.Strict := ⟨⟨some "NOT", "name"⟩, by rfl⟩

theorem negatedStrict : (Filter.group negated).Strict := by
  intro c inside
  have same : c = bracketed := by simpa [visits, negated, Group.visits, Group.visitsAll] using inside
  rw [same]
  exact bracketedStrict

theorem nestedNegationStrict : (Filter.group ⟨.or, [], [negated]⟩).Strict := by
  intro c inside
  have same : c = bracketed := by simpa [visits, negated, Group.visits, Group.visitsAll] using inside
  rw [same]
  exact bracketedStrict

theorem textMeaningOfNegation :
    (negated.operation ⟨1, some 2, true⟩).text = "NOT (NOT.name LIKE 'it''s ) AND (')" ∧
    ∃ formula, (negated.operation ⟨1, some 2, true⟩).formula? = some formula ∧
      (Group.operation ⟨2, none, true⟩ ⟨.or, [], [negated]⟩).formula? = some formula ∧
      ∀ truth : Atom → Bool, (negated.operation ⟨1, some 2, true⟩).holds truth =
        (Group.operation ⟨2, none, true⟩ ⟨.or, [], [negated]⟩).holds truth :=
  ⟨by decide +kernel, textMeaning negatedStrict nestedNegationStrict
    (s := ⟨1, some 2, true⟩) (t := ⟨2, none, true⟩) (by rfl) (by rfl) (by decide +kernel)⟩

end Filter
end QueryTree
