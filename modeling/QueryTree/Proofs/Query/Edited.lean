import QueryTree.Proofs.Json.Whole
import QueryTree.Query.Json

/-! Edits of a document that leave its query alone: other orders of members, other spellings of keys,
and members that are not known where they are added. -/
namespace QueryTree

open QueryTree.Json (Node RawText)

def Json.Node.isText : Node → Bool
  | .text _ => true
  | _ => false

def Json.Node.isNull : Node → Bool
  | .null => true
  | _ => false

def Json.Node.isScalar : Node → Bool
  | .null | .bool _ | .number _ | .text _ => true
  | _ => false

inductive Shape where
  /-- A scalar, a value, or something that is passed over. -/
  | plain
  | list (item : Shape)
  | query
  | filter
  | group
  | condition
  | join
  | joinOn
  | sortKey
  | aggregation
  deriving DecidableEq, Repr

namespace Shape

def fields : Shape → List (List String × Shape)
  | .plain | .list _ => []
  | .query => [(["target", "object"], .plain), (["fields"], .plain), (["filter"], .filter),
      (["joins"], .list .join), (["group_by", "groupBy"], .plain), (["sort"], .list .sortKey),
      (["limit"], .plain), (["offset"], .plain), (["aggregations"], .list .aggregation)]
  | .filter => [(["field"], .plain), (["value"], .plain), (["operator"], .plain),
      (["conditions"], .list .condition), (["groups"], .list .group)]
  | .group => [(["operator"], .plain), (["conditions"], .list .condition),
      (["groups"], .list .group)]
  | .condition => [(["field"], .plain), (["value"], .plain), (["operator"], .plain)]
  | .join => [(["type"], .plain), (["object", "target"], .plain), (["alias"], .plain),
      (["on"], .joinOn)]
  | .joinOn => [(["local_field"], .plain), (["foreign_field"], .plain), (["local_alias"], .plain)]
  | .sortKey => [(["field"], .plain), (["order", "direction"], .plain)]
  | .aggregation => [(["function", "func"], .plain), (["field"], .plain), (["alias"], .plain),
      (["distinct"], .plain)]

def names (shape : Shape) : List String := shape.fields.flatMap Prod.fst

def content (shape : Shape) (name : String) : Shape :=
  ((shape.fields.find? fun field => field.1.contains name).map Prod.snd).getD .plain

def member (shape : Shape) (key : RawText) : Shape :=
  match key.read with
  | .ok name => shape.content name
  | .error _ => .plain

def isCondition : List Node → Bool
  | [field] | [field, _] => field.isText
  | [field, _, operator] => field.isText && (operator.isText || operator.isNull)
  | _ => false

def ofArray : Shape → List Node → Shape
  | .filter, items => if isCondition items then .condition else .group
  | shape, _ => shape

def item : Shape → Nat → Shape
  | .list item, _ => item
  | shape, i => (shape.fields[i]?.map Prod.snd).getD .plain

def SameKey (shape : Shape) (key other : RawText) : Prop :=
  other = key ∨ ∃ field ∈ shape.fields, ∃ a ∈ field.1, ∃ b ∈ field.1,
    key.read = .ok a ∧ other.read = .ok b

structure Foreign (shape : Shape) (member : RawText × Node) : Prop where
  object : shape.fields ≠ []
  named : ∃ name, member.1.read = .ok name ∧ name ∉ shape.names
  decoded : ∃ levels v, Value.ofNode levels member.2 = .ok v

end Shape

mutual

inductive Edited : Shape → Node → Node → Prop where
  | scalar {shape : Shape} {node : Node} (kind : node.isScalar = true) : Edited shape node node
  | array {shape : Shape} {items edited : List Node}
      (each : EditedItems (shape.ofArray items).item items edited) :
      Edited shape (.array (.ofList .closed items)) (.array (.ofList .closed edited))
  | object {shape : Shape} {members kept added edited : List (RawText × Node)}
      (each : EditedMembers shape members kept) (foreign : ∀ member ∈ added, shape.Foreign member)
      (order : edited.Perm (kept ++ added)) :
      Edited shape (.object (.ofList .closed members)) (.object (.ofList .closed edited))

inductive EditedItems : (Nat → Shape) → List Node → List Node → Prop where
  | nil {shapes : Nat → Shape} : EditedItems shapes [] []
  | cons {shapes : Nat → Shape} {item other : Node} {items others : List Node}
      (head : Edited (shapes 0) item other)
      (tail : EditedItems (fun i => shapes (i + 1)) items others) :
      EditedItems shapes (item :: items) (other :: others)

inductive EditedMembers : Shape → List (RawText × Node) → List (RawText × Node) → Prop where
  | nil {shape : Shape} : EditedMembers shape [] []
  | cons {shape : Shape} {key other : RawText} {value edited : Node}
      {members kept : List (RawText × Node)} (same : shape.SameKey key other)
      (head : Edited (shape.member key) value edited) (tail : EditedMembers shape members kept) :
      EditedMembers shape ((key, value) :: members) ((other, edited) :: kept)

end

def Json.Node.Distinct (node : Node) : Prop :=
  node.Everywhere fun
    | .object members => (members.keys.filterMap fun key => key.read.toOption).Nodup
    | _ => True

end QueryTree
