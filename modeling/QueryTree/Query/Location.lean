import QueryTree.Query.Basic

/-! Where the field references of a query stand. -/
namespace QueryTree

inductive Location where
  | field (index : Nat)
  | filter
  | condition (path : List Nat) (index : Nat)
  | joinLocal (index : Nat)
  | joinForeign (index : Nat)
  | groupBy (index : Nat)
  | sort (index : Nat)
  | aggregation (index : Nat)
  deriving DecidableEq, Repr

namespace Location

def item (name : String) (index : Nat) : String := name ++ "[" ++ toString index ++ "]"

def groupText (path : List Nat) : String :=
  String.join ("filter" :: path.map fun i => "." ++ item "groups" i)

def text : Location → String
  | .field i => item "fields" i
  | .filter => "filter"
  | .condition path i => groupText path ++ "." ++ item "conditions" i
  | .joinLocal i => item "joins" i ++ ".on.local_field"
  | .joinForeign i => item "joins" i ++ ".on.foreign_field"
  | .groupBy i => item "group_by" i
  | .sort i => item "sort" i ++ ".field"
  | .aggregation i => item "aggregations" i ++ ".field"

end Location

def Group.follow (g : Group) : List Nat → Option Group
  | [] => some g
  | i :: path => g.groups[i]?.bind fun nested => nested.follow path

def Query.reference? (q : Query) : Location → Option String
  | .field i => q.fields[i]?
  | .filter =>
    match q.filter with
    | some (.leaf c) => some c.field
    | _ => none
  | .condition path i =>
    match q.filter with
    | some (.group g) => (g.follow path).bind fun nested => nested.conditions[i]?.map Condition.field
    | _ => none
  | .joinLocal i => q.joins[i]?.map fun j => j.on.localField
  | .joinForeign i => q.joins[i]?.map fun j => j.on.foreignField
  | .groupBy i => q.groupBy[i]?
  | .sort i => q.sort[i]?.map Query.SortKey.field
  | .aggregation i => q.aggregations[i]?.bind Query.Aggregation.field

end QueryTree
