import QueryTree.Query.Basic
import QueryTree.Filter.Json

/-! Query descriptions as JSON. -/
namespace QueryTree

open Json (Reader Record Result)

namespace Query

namespace JoinOn

def toJson (on : JoinOn) : Json :=
  .object ([("local_field", .string on.localField), ("foreign_field", .string on.foreignField)] ++
    Json.optional "local_alias" .string on.localAlias)

inductive Key where
  | localField
  | foreignField
  | localAlias
  deriving DecidableEq, Repr

def record : Record Key where
  Entry
    | .localField => String
    | .foreignField => String
    | .localAlias => Option String
  keys := [.localField, .foreignField, .localAlias]
  name
    | .localField => "local_field"
    | .foreignField => "foreign_field"
    | .localAlias => "local_alias"
  aliases _ := []
  optional key := key == .localAlias
  exact := false
  read
    | .localField => Json.readString
    | .foreignField => Json.readString
    | .localAlias => Json.readOption Json.readString

def ofDraft (draft : record.Draft) : Result JoinOn := do
  let localField ← draft.require .localField
  let foreignField ← draft.require .foreignField
  return ⟨localField, foreignField, (draft .localAlias).getD none⟩

def read : Reader JoinOn := record.reader ofDraft

end JoinOn

namespace Join

def toJson (join : Join) : Json :=
  .object ([("type", .string join.kind), ("object", .string join.object)] ++
    Json.optional "alias" .string join.aliasName ++ [("on", join.on.toJson)])

inductive Key where
  | kind
  | object
  | aliasName
  | on
  deriving DecidableEq, Repr

def record : Record Key where
  Entry
    | .kind => String
    | .object => String
    | .aliasName => Option String
    | .on => JoinOn
  keys := [.kind, .object, .aliasName, .on]
  name
    | .kind => "type"
    | .object => "object"
    | .aliasName => "alias"
    | .on => "on"
  aliases
    | .object => ["target"]
    | _ => []
  optional key := key == .kind || key == .aliasName
  exact := false
  read
    | .kind => Json.readString
    | .object => Json.readString
    | .aliasName => Json.readOption Json.readString
    | .on => JoinOn.read

def ofDraft (draft : record.Draft) : Result Join := do
  let object ← draft.require .object
  let on ← draft.require .on
  return ⟨(draft .kind).getD "inner", object, (draft .aliasName).getD none, on⟩

def read : Reader Join := record.reader ofDraft

end Join

namespace SortKey

def toJson (key : SortKey) : Json :=
  .object [("field", .string key.field), ("order", .string key.order.name)]

inductive Key where
  | field
  | order
  deriving DecidableEq, Repr

def record : Record Key where
  Entry
    | .field => String
    | .order => SortOrder
  keys := [.field, .order]
  name
    | .field => "field"
    | .order => "order"
  aliases
    | .order => ["direction"]
    | _ => []
  optional key := key == .order
  exact := false
  read
    | .field => Json.readString
    | .order => Json.readVariant SortOrder.ofSpelling?

def ofDraft (draft : record.Draft) : Result SortKey := do
  let field ← draft.require .field
  return ⟨field, (draft .order).getD SortOrder.asc⟩

def read : Reader SortKey := record.reader ofDraft

end SortKey

namespace Aggregation

def toJson (a : Aggregation) : Json :=
  .object ([("function", .string a.function)] ++ Json.optional "field" .string a.field ++
    Json.optional "alias" .string a.aliasName ++ [("distinct", .bool a.distinct)])

inductive Key where
  | function
  | field
  | aliasName
  | distinct
  deriving DecidableEq, Repr

def record : Record Key where
  Entry
    | .function => String
    | .field => Option String
    | .aliasName => Option String
    | .distinct => Bool
  keys := [.function, .field, .aliasName, .distinct]
  name
    | .function => "function"
    | .field => "field"
    | .aliasName => "alias"
    | .distinct => "distinct"
  aliases
    | .function => ["func"]
    | _ => []
  optional key := key != .function
  exact := false
  read
    | .function => Json.readString
    | .field => Json.readOption Json.readString
    | .aliasName => Json.readOption Json.readString
    | .distinct => Json.readBool

def ofDraft (draft : record.Draft) : Result Aggregation := do
  let function ← draft.require .function
  return ⟨function, (draft .field).getD none, (draft .aliasName).getD none,
    (draft .distinct).getD false⟩

def read : Reader Aggregation := record.reader ofDraft

end Aggregation

def toJson (q : Query) : Json :=
  .object ([("target", .string q.target), ("fields", Json.list .string q.fields)] ++
    Json.optional "filter" Filter.toJson q.filter ++
    [("joins", Json.list Join.toJson q.joins), ("group_by", Json.list .string q.groupBy),
      ("sort", Json.list SortKey.toJson q.sort)] ++
    Json.optional "limit" Json.natural q.limit ++ Json.optional "offset" Json.natural q.offset ++
    [("aggregations", Json.list Aggregation.toJson q.aggregations)])

inductive Key where
  | target
  | fields
  | filter
  | joins
  | groupBy
  | sort
  | limit
  | offset
  | aggregations
  deriving DecidableEq, Repr

def record : Record Key where
  Entry
    | .target => String
    | .fields => List String
    | .filter => Option Filter
    | .joins => List Join
    | .groupBy => List String
    | .sort => List SortKey
    | .limit => Option UInt64
    | .offset => Option UInt64
    | .aggregations => List Aggregation
  keys := [.target, .fields, .filter, .joins, .groupBy, .sort, .limit, .offset, .aggregations]
  name
    | .target => "target"
    | .fields => "fields"
    | .filter => "filter"
    | .joins => "joins"
    | .groupBy => "group_by"
    | .sort => "sort"
    | .limit => "limit"
    | .offset => "offset"
    | .aggregations => "aggregations"
  aliases
    | .target => ["object"]
    | .groupBy => ["groupBy"]
    | _ => []
  optional key := key != .target
  exact := false
  read
    | .target => Json.readString
    | .fields => Json.readList Json.readString
    | .filter => Json.readOption Filter.read
    | .joins => Json.readList Join.read
    | .groupBy => Json.readList Json.readString
    | .sort => Json.readList SortKey.read
    | .limit => Json.readOption Json.readNatural
    | .offset => Json.readOption Json.readNatural
    | .aggregations => Json.readList Aggregation.read

def ofDraft (draft : record.Draft) : Result Query := do
  let target ← draft.require .target
  return ⟨target, (draft .fields).getD [], (draft .filter).getD none, (draft .joins).getD [],
    (draft .groupBy).getD [], (draft .sort).getD [], (draft .limit).getD none,
    (draft .offset).getD none, (draft .aggregations).getD []⟩

def read : Reader Query := record.reader ofDraft

def ofText (text : String) : Result Query :=
  let document := Json.Document.ofText text
  Json.readDocument read document.root.depth document

end Query
end QueryTree
