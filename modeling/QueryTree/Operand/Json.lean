import QueryTree.Field.Json
import QueryTree.Operand.Basic
import QueryTree.Value.Json

/-! Operators over operands as JSON. An operand carries a tag that tells its kind; the same nodes
stand without one where only one kind is possible. -/
namespace QueryTree

open Json (Reader Record Result Tags)

namespace Literal

def members (l : Literal) : List (String × Json) :=
  [("value", l.value.toJson), ("data_type", .string l.type.name)]

def toJson (l : Literal) : Json := .object l.members

inductive Key where
  | value
  | type
  deriving DecidableEq, Repr

def record : Record Key where
  Entry
    | .value => Value
    | .type => LiteralType
  keys := [.value, .type]
  name
    | .value => "value"
    | .type => "data_type"
  aliases _ := []
  optional _ := false
  exact := false
  read
    | .value => Value.read
    | .type => Json.readVariant LiteralType.ofName?

def ofDraft (draft : record.Draft) : Result Literal := do
  let value ← draft.require .value
  let type ← draft.require .type
  return ⟨value, type⟩

def read : Reader Literal := record.reader ofDraft

end Literal

namespace Operand

inductive Tag where
  | operator
  | field
  | literal
  deriving DecidableEq, Repr

def Tag.name : Tag → String
  | .operator => "operator"
  | .field => "field"
  | .literal => "literal"

def tag : Operand → Tag
  | .operation _ _ => .operator
  | .field _ => .field
  | .literal _ => .literal

mutual

def members : Operand → List (String × Json)
  | .operation operator operands =>
    [("operator", .string operator.symbol), ("operands", .array (taggedAll operands))]
  | .field f => f.members
  | .literal l => l.members

def taggedAll : List Operand → List Json
  | [] => []
  | operand :: rest =>
    .object (("type", .string operand.tag.name) :: operand.members) :: taggedAll rest

end

def tags : Tags Tag where
  name := "type"
  all := [.operator, .field, .literal]
  ofName? name := [Tag.operator, .field, .literal].find? fun t => t.name == name

def toJson (operand : Operand) : Json :=
  .object (("type", .string operand.tag.name) :: operand.members)

end Operand

namespace Operation

def toJson (o : Operation) : Json := .object o.asOperand.members

inductive Key where
  | operator
  | operands
  deriving DecidableEq, Repr

def record (operand : Reader Operand) : Record Key where
  Entry
    | .operator => Operator
    | .operands => List Operand
  keys := [.operator, .operands]
  name
    | .operator => "operator"
    | .operands => "operands"
  aliases _ := []
  optional _ := false
  exact := false
  read
    | .operator => Json.readVariant Operator.ofSymbol?
    | .operands => Json.readList operand

def ofDraft {operand : Reader Operand} (draft : (record operand).Draft) : Result Operation := do
  let operator ← draft.require .operator
  let operands ← draft.require .operands
  return ⟨operator, operands⟩

end Operation

def Operand.readWithin : (fuel : Nat) → Reader Operand
  | 0 => fun _ _ _ => Json.malformed
  | fuel + 1 => Operand.tags.reader fun
    | .operator => fun source levels node => Operation.asOperand <$>
      (Operation.record (readWithin fuel)).reader Operation.ofDraft source levels node
    | .field => fun source levels node => Operand.field <$> Field.read source levels node
    | .literal => fun source levels node => Operand.literal <$> Literal.read source levels node

def Operand.read : Reader Operand := fun source levels node =>
  readWithin (levels + 1) source levels node

def Operation.read : Reader Operation := (Operation.record Operand.read).reader Operation.ofDraft

end QueryTree
