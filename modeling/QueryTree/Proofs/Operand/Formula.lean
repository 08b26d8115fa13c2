import QueryTree.Operand.Text

/-! What an operation over comparisons says: its normal form, and its truth once it is known which
comparisons hold. A comparison is known by the texts of its field and its literal. -/
namespace QueryTree

structure Atom where
  field : String
  comparison : Comparison
  literal : String
  deriving DecidableEq, Repr

inductive Formula where
  | atom (atom : Atom)
  | all (parts : List Formula)
  | any (parts : List Formula)
  | negation (part : Formula)
  deriving Repr

namespace Formula

def ofAll : List Formula → Formula
  | [part] => part
  | parts => .all parts

def ofAny : List Formula → Formula
  | [part] => part
  | parts => .any parts

def ofConnective : Connective → List Formula → Formula
  | .and, parts => ofAll parts
  | .or, parts => ofAny parts
  | .not, parts => .negation (ofAll parts)

mutual

def holds (truth : Atom → Bool) : Formula → Bool
  | .atom a => truth a
  | .all parts => allHold truth parts
  | .any parts => anyHolds truth parts
  | .negation part => !part.holds truth

def allHold (truth : Atom → Bool) : List Formula → Bool
  | [] => true
  | part :: rest => part.holds truth && allHold truth rest

def anyHolds (truth : Atom → Bool) : List Formula → Bool
  | [] => false
  | part :: rest => part.holds truth || anyHolds truth rest

end

theorem ofAllHolds (truth : Atom → Bool) (parts : List Formula) :
    (ofAll parts).holds truth = allHold truth parts := by
  unfold ofAll
  split
  · simp [allHold]
  · rfl

theorem ofAnyHolds (truth : Atom → Bool) (parts : List Formula) :
    (ofAny parts).holds truth = anyHolds truth parts := by
  unfold ofAny
  split
  · simp [anyHolds]
  · rfl

end Formula

namespace Operand

mutual

def formula? : Operand → Option Formula
  | .operation (.connective c) operands => (formulas? operands).map (Formula.ofConnective c)
  | .operation (.comparison c) [.field f, .literal l] => some (.atom ⟨f.text, c, l.value.text⟩)
  | _ => none

def formulas? : List Operand → Option (List Formula)
  | [] => some []
  | operand :: rest => do
    let part ← operand.formula?
    let parts ← formulas? rest
    return part :: parts

end

mutual

def holds (truth : Atom → Bool) : Operand → Bool
  | .operation (.connective .and) operands => allHold truth operands
  | .operation (.connective .or) operands => anyHolds truth operands
  | .operation (.connective .not) operands => !allHold truth operands
  | .operation (.comparison c) [.field f, .literal l] => truth ⟨f.text, c, l.value.text⟩
  | _ => false

def allHold (truth : Atom → Bool) : List Operand → Bool
  | [] => true
  | operand :: rest => operand.holds truth && allHold truth rest

def anyHolds (truth : Atom → Bool) : List Operand → Bool
  | [] => false
  | operand :: rest => operand.holds truth || anyHolds truth rest

end

theorem formulasCons {operand : Operand} {rest : List Operand} {parts : List Formula}
    (found : formulas? (operand :: rest) = some parts) :
    ∃ part others, operand.formula? = some part ∧ formulas? rest = some others ∧
      parts = part :: others := by
  simp only [formulas?, bind, Option.bind_eq_some_iff] at found
  obtain ⟨part, first, others, later, last⟩ := found
  exact ⟨part, others, first, later, (Option.some.inj last).symm⟩

mutual

theorem formulaHolds (truth : Atom → Bool) : (operand : Operand) → (formula : Formula) →
    operand.formula? = some formula → operand.holds truth = formula.holds truth
  | .operation (.connective c) operands, formula, found => by
    rw [formula?] at found
    obtain ⟨parts, foundAll, rfl⟩ := Option.map_eq_some_iff.mp found
    obtain ⟨all, any⟩ := formulasHold truth operands parts foundAll
    cases c with
    | and => rw [holds, all, Formula.ofConnective, Formula.ofAllHolds]
    | or => rw [holds, any, Formula.ofConnective, Formula.ofAnyHolds]
    | not => rw [holds, all, Formula.ofConnective, Formula.holds, Formula.ofAllHolds]
  | .operation (.comparison c) operands, formula, found => by
    unfold formula? at found
    split at found
    · rename_i same
      cases same
    · rename_i f l same
      cases same
      cases Option.some.inj found
      rw [holds, Formula.holds]
    · contradiction
  | .field f, formula, found => by simp [formula?] at found
  | .literal l, formula, found => by simp [formula?] at found

theorem formulasHold (truth : Atom → Bool) : (operands : List Operand) → (parts : List Formula) →
    formulas? operands = some parts →
    allHold truth operands = Formula.allHold truth parts ∧
    anyHolds truth operands = Formula.anyHolds truth parts
  | [], parts, found => by
    cases Option.some.inj found
    exact ⟨rfl, rfl⟩
  | operand :: rest, parts, found => by
    obtain ⟨part, others, first, later, rfl⟩ := formulasCons found
    obtain ⟨all, any⟩ := formulasHold truth rest others later
    have head := formulaHolds truth operand part first
    exact ⟨by rw [allHold, Formula.allHold, head, all], by
      rw [anyHolds, Formula.anyHolds, head, any]⟩

end

end Operand

def Operation.formula? (o : Operation) : Option Formula := o.asOperand.formula?

def Operation.holds (truth : Atom → Bool) (o : Operation) : Bool := o.asOperand.holds truth

end QueryTree
