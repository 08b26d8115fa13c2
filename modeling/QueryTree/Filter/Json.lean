import QueryTree.Filter.Basic
import QueryTree.Value.Json
import QueryTree.Json.Record

/-! Filters as JSON. A node of a filter that can be read as a condition is one, any other is a
group. -/
namespace QueryTree

open Json (Reader Record Result)

namespace Condition

def toJson (c : Condition) : Json :=
  .object ([("field", .string c.field), ("value", c.value.toJson)] ++
    Json.optional "operator" .string c.operator)

inductive Key where
  | field
  | value
  | operator
  deriving DecidableEq, Repr

def record : Record Key where
  Entry
    | .field => String
    | .value => Value
    | .operator => Option String
  keys := [.field, .value, .operator]
  name
    | .field => "field"
    | .value => "value"
    | .operator => "operator"
  aliases _ := []
  optional key := key != .field
  exact := false
  read
    | .field => Json.readString
    | .value => Value.read
    | .operator => Json.readOption Json.readString

def ofDraft (draft : record.Draft) : Result Condition := do
  let field ← draft.require .field
  return ⟨field, (draft .value).getD Value.null, (draft .operator).getD none⟩

def read : Reader Condition := record.reader ofDraft

end Condition

namespace Group

mutual

def toJson : Group → Json
  | ⟨operator, conditions, groups⟩ =>
    .object [("operator", .string operator.symbol),
      ("conditions", Json.list Condition.toJson conditions), ("groups", .array (allToJson groups))]

def allToJson : List Group → List Json
  | [] => []
  | g :: rest => g.toJson :: allToJson rest

end

inductive Key where
  | operator
  | conditions
  | groups
  deriving DecidableEq, Repr

def record (nested : Reader Group) : Record Key where
  Entry
    | .operator => Connective
    | .conditions => List Condition
    | .groups => List Group
  keys := [.operator, .conditions, .groups]
  name
    | .operator => "operator"
    | .conditions => "conditions"
    | .groups => "groups"
  aliases _ := []
  optional _ := true
  exact := false
  read
    | .operator => Json.readVariant Connective.ofSymbol?
    | .conditions => Json.readList Condition.read
    | .groups => Json.readList nested

def ofDraft {nested : Reader Group} (draft : (record nested).Draft) : Result Group :=
  return ⟨(draft .operator).getD Connective.and, (draft .conditions).getD [],
    (draft .groups).getD []⟩

def readWithin : (fuel : Nat) → Reader Group
  | 0 => fun _ _ _ => Json.malformed
  | fuel + 1 => (record (readWithin fuel)).reader ofDraft

def read : Reader Group := fun source levels node => readWithin (levels + 1) source levels node

end Group

namespace Filter

def toJson : Filter → Json
  | .leaf c => c.toJson
  | .group g => g.toJson

def read : Reader Filter := fun _ levels node => do
  Json.ofFault (node.check levels)
  match Condition.read .choice levels node with
  | .ok c => return .leaf c
  | .error _ =>
    match Group.read .choice levels node with
    | .ok g => return .group g
    | .error _ => .error (.mismatch (.noShape "ConditionTree"))

end Filter
end QueryTree
