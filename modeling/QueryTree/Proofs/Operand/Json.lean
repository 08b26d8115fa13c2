import QueryTree.Operand.Json
import QueryTree.Proofs.Json.Records
import QueryTree.Proofs.Value.Json

/-! Operators over operands are read back from their JSON. The tag of an operand leads to its kind,
and no kind has a member of that name. -/
namespace QueryTree

open Json (Reads)

namespace Field

def encode : (key : Key) → record.Entry key → Json
  | .table, o => Json.orNull .string o
  | .name, s => .string s

def draft (f : Field) : record.Draft
  | .table => f.table.map some
  | .name => some f.name

theorem recordSound : record.Sound where
  distinct := by simp [record]
  complete key := by cases key <;> simp [record]
  named key := by cases key <;> rfl

theorem membersWritten (f : Field) : f.members = record.written encode f.draft record.keys := by
  obtain ⟨table, name⟩ := f
  cases table <;> rfl

theorem ofDraftBack (f : Field) : ofDraft f.draft = .ok f := by
  obtain ⟨table, name⟩ := f
  cases table <;> rfl

theorem reads (f : Field) : Reads read f.toJson f := by
  rw [toJson, membersWritten]
  refine Json.readsRecord recordSound (fun key entry set => ?_) (ofDraftBack f)
  cases key with
  | table => exact Json.readsPresent set nofun fun s _ => Json.readsString s
  | name =>
    cases set
    exact Json.readsString _

theorem membersUntagged (f : Field) : ∀ member ∈ f.members, member.1 ≠ "type" := by
  obtain ⟨table, name⟩ := f
  cases table <;> simp [members, Json.optional]

end Field

theorem LiteralType.ofNameBack (type : LiteralType) : ofName? type.name = some type := by
  cases type <;> rfl

theorem Operator.ofSymbolBack (operator : Operator) : ofSymbol? operator.symbol = some operator := by
  cases operator with
  | connective c => cases c <;> rfl
  | comparison c => cases c <;> rfl

namespace Literal

def encode : (key : Key) → record.Entry key → Json
  | .value, v => Value.toJson v
  | .type, type => .string (LiteralType.name type)

def draft (l : Literal) : record.Draft
  | .value => some l.value
  | .type => some l.type

theorem recordSound : record.Sound where
  distinct := by simp [record]
  complete key := by cases key <;> simp [record]
  named key := by cases key <;> rfl

theorem reads {l : Literal} (recoverable : l.value.Everywhere Value.Recoverable) :
    Reads read l.toJson l := by
  have written : l.toJson = .object (record.written encode l.draft record.keys) := rfl
  rw [written]
  refine Json.readsRecord recordSound (fun key entry set => ?_) rfl
  cases key with
  | value =>
    cases set
    exact Value.reads recoverable
  | type =>
    cases set
    exact Json.readsVariant (LiteralType.ofNameBack _)

end Literal

namespace Operation

variable {nested : Json.Reader Operand}

def encode : (key : Key) → (record nested).Entry key → Json
  | .operator, operator => .string (Operator.symbol operator)
  | .operands, operands => Json.list Operand.toJson operands

def draft (o : Operation) : (record nested).Draft
  | .operator => some o.operator
  | .operands => some o.operands

theorem recordSound : (record nested).Sound where
  distinct := by simp [record]
  complete key := by cases key <;> simp [record]
  named key := by cases key <;> rfl

theorem taggedAllList (operands : List Operand) :
    .array (Operand.taggedAll operands) = Json.list Operand.toJson operands := by
  have same : Operand.taggedAll operands = operands.map Operand.toJson := by
    induction operands with
    | nil => rfl
    | cons operand rest ih => rw [Operand.taggedAll, List.map_cons, ih, Operand.toJson]
  rw [same, Json.list]

theorem toJsonWritten (nested : Json.Reader Operand) (o : Operation) :
    o.toJson = .object ((record nested).written encode o.draft (record nested).keys) := by
  rw [toJson, asOperand, Operand.members, taggedAllList]
  rfl

theorem readsWith {o : Operation}
    (operandsRead : ∀ operand ∈ o.operands, Reads nested operand.toJson operand) :
    Reads ((record nested).reader ofDraft) o.toJson o := by
  rw [toJsonWritten nested]
  refine Json.readsRecord recordSound (fun key entry set => ?_) rfl
  cases key with
  | operator =>
    cases set
    exact Json.readsVariant (Operator.ofSymbolBack _)
  | operands =>
    cases set
    exact Json.readsList operandsRead

end Operation

namespace Operand

mutual

@[simp] def literals : Operand → List Literal
  | .operation _ operands => literalsOf operands
  | .field _ => []
  | .literal l => [l]

@[simp] def literalsOf : List Operand → List Literal
  | [] => []
  | operand :: rest => operand.literals ++ literalsOf rest

end

theorem membersUntagged (operand : Operand) : ∀ member ∈ operand.members, member.1 ≠ tags.name := by
  cases operand with
  | operation operator operands => simp [members, tags]
  | field f => exact f.membersUntagged
  | literal l => simp [members, Literal.members, tags]

theorem ofTagBack (operand : Operand) : tags.ofName? operand.tag.name = some operand.tag := by
  cases operand <;> rfl

theorem operandsDepth (operator : Operator) (operands : List Operand) :
    2 + Json.depthItems (taggedAll operands) ≤ (toJson (.operation operator operands)).depth := by
  simp only [toJson, members, Json.depth, Json.depthMembers]
  omega

mutual

theorem readsWithin : (operand : Operand) → (fuel : Nat) → operand.toJson.depth < fuel →
    (∀ l ∈ operand.literals, l.value.Everywhere Value.Recoverable) →
    Reads (readWithin fuel) operand.toJson operand
  | _, 0, within, _ => absurd within (Nat.not_lt_zero _)
  | .operation operator operands, fuel + 1, within, recoverable => by
    have deeper := operandsDepth operator operands
    have operandsRead := allReadWithin operands fuel (by omega) recoverable
    have inside := Operation.readsWith (o := ⟨operator, operands⟩) operandsRead
    exact Json.readsTagged (ofTagBack _) (membersUntagged _) (Json.readsMap Operation.asOperand inside)
  | .field f, fuel + 1, _, _ =>
    Json.readsTagged (ofTagBack (.field f)) (membersUntagged (.field f)) (Json.readsMap Operand.field f.reads)
  | .literal l, fuel + 1, _, recoverable =>
    Json.readsTagged (ofTagBack (.literal l)) (membersUntagged (.literal l))
      (Json.readsMap Operand.literal (Literal.reads (recoverable l List.mem_cons_self)))

theorem allReadWithin : (operands : List Operand) → (fuel : Nat) →
    Json.depthItems (taggedAll operands) < fuel →
    (∀ l ∈ literalsOf operands, l.value.Everywhere Value.Recoverable) →
    ∀ operand ∈ operands, Reads (readWithin fuel) operand.toJson operand
  | [], _, _, _ => by simp
  | first :: rest, fuel, within, recoverable => by
    obtain ⟨here, others⟩ := Nat.max_lt.mp within
    have reads := readsWithin first fuel here fun l inside =>
      recoverable l (List.mem_append_left _ inside)
    have later := allReadWithin rest fuel others fun l inside =>
      recoverable l (List.mem_append_right _ inside)
    intro other inside
    rcases List.mem_cons.mp inside with rfl | inside
    · exact reads
    · exact later other inside

end

theorem reads {operand : Operand}
    (recoverable : ∀ l ∈ operand.literals, l.value.Everywhere Value.Recoverable) :
    Reads read operand.toJson operand where
  exact := (readsWithin operand _ (Nat.lt_succ_self _) recoverable).exact
  back source _ _ held within :=
    (readsWithin operand _ (Nat.lt_succ_of_le within) recoverable).back source held within

theorem literalsInside {l : Literal} {operand : Operand} {operands : List Operand}
    (here : l ∈ operand.literals) (inside : operand ∈ operands) : l ∈ literalsOf operands := by
  induction operands with
  | nil => contradiction
  | cons first rest ih =>
    rcases List.mem_cons.mp inside with rfl | inside
    · exact List.mem_append_left _ here
    · exact List.mem_append_right _ (ih inside)

end Operand

namespace Operation

def literals (o : Operation) : List Literal := Operand.literalsOf o.operands

theorem reads {o : Operation}
    (recoverable : ∀ l ∈ o.literals, l.value.Everywhere Value.Recoverable) :
    Reads read o.toJson o :=
  readsWith fun _ inside => Operand.reads fun l here =>
    recoverable l (Operand.literalsInside here inside)

end Operation
end QueryTree
