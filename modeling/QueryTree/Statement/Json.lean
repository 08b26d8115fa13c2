import QueryTree.Operand.Json
import QueryTree.Query.Json
import QueryTree.Statement.Basic

/-! Statements as JSON. Columns carry a tag that tells their kind. -/
namespace QueryTree

open Json (Reader Record Result Tags)

namespace Statement

namespace Aggregate

def members (a : Aggregate) : List (String × Json) :=
  [("function", .string a.function)] ++ Json.optional "field" Field.toJson a.field ++
    Json.optional "alias" .string a.aliasName ++ [("distinct", .bool a.distinct)]

def toJson (a : Aggregate) : Json := .object a.members

inductive Key where
  | function
  | field
  | aliasName
  | distinct
  deriving DecidableEq, Repr

def record : Record Key where
  Entry
    | .function => String
    | .field => Option Field
    | .aliasName => Option String
    | .distinct => Bool
  keys := [.function, .field, .aliasName, .distinct]
  name
    | .function => "function"
    | .field => "field"
    | .aliasName => "alias"
    | .distinct => "distinct"
  aliases _ := []
  optional key := key != .function
  exact := false
  read
    | .function => Json.readString
    | .field => Json.readOption Field.read
    | .aliasName => Json.readOption Json.readString
    | .distinct => Json.readBool

def ofDraft (draft : record.Draft) : Result Aggregate := do
  let function ← draft.require .function
  return ⟨function, (draft .field).getD none, (draft .aliasName).getD none,
    (draft .distinct).getD false⟩

def read : Reader Aggregate := record.reader ofDraft

end Aggregate

namespace Column

inductive Tag where
  | field
  | aggregate
  deriving DecidableEq, Repr

def Tag.name : Tag → String
  | .field => "field"
  | .aggregate => "aggregate"

def tags : Tags Tag where
  name := "type"
  all := [.field, .aggregate]
  ofName? name := [Tag.field, .aggregate].find? fun t => t.name == name

def toJson : Column → Json
  | .field f => .object (("type", .string Tag.field.name) :: f.members)
  | .aggregate a => .object (("type", .string Tag.aggregate.name) :: a.members)

def read : Reader Column := tags.reader fun
  | .field => fun source levels node => Column.field <$> Field.read source levels node
  | .aggregate => fun source levels node => Column.aggregate <$> Aggregate.read source levels node

end Column

namespace Join

def toJson (j : Join) : Json :=
  .object ([("kind", .string j.kind), ("table", .string j.table)] ++
    Json.optional "alias" .string j.aliasName ++ [("on", j.on.toJson)])

inductive Key where
  | kind
  | table
  | aliasName
  | on
  deriving DecidableEq, Repr

def record : Record Key where
  Entry
    | .kind => String
    | .table => String
    | .aliasName => Option String
    | .on => Operation
  keys := [.kind, .table, .aliasName, .on]
  name
    | .kind => "kind"
    | .table => "table"
    | .aliasName => "alias"
    | .on => "on"
  aliases _ := []
  optional key := key == .aliasName
  exact := false
  read
    | .kind => Json.readString
    | .table => Json.readString
    | .aliasName => Json.readOption Json.readString
    | .on => Operation.read

def ofDraft (draft : record.Draft) : Result Join := do
  let kind ← draft.require .kind
  let table ← draft.require .table
  let on ← draft.require .on
  return ⟨kind, table, (draft .aliasName).getD none, on⟩

def read : Reader Join := record.reader ofDraft

end Join

namespace OrderItem

def toJson (item : OrderItem) : Json :=
  .object [("field", item.field.toJson), ("direction", .string item.direction.name)]

inductive Key where
  | field
  | direction
  deriving DecidableEq, Repr

def record : Record Key where
  Entry
    | .field => Field
    | .direction => SortOrder
  keys := [.field, .direction]
  name
    | .field => "field"
    | .direction => "direction"
  aliases _ := []
  optional _ := false
  exact := false
  read
    | .field => Field.read
    | .direction => Json.readVariant SortOrder.ofSpelling?

def ofDraft (draft : record.Draft) : Result OrderItem := do
  let field ← draft.require .field
  let direction ← draft.require .direction
  return ⟨field, direction⟩

def read : Reader OrderItem := record.reader ofDraft

end OrderItem

def wrapped {α : Type} (name : String) (read : Reader α) : Reader α :=
  let record : Record Unit :=
    { Entry := fun _ => α, keys := [()], name := fun _ => name, aliases := fun _ => [],
      optional := fun _ => false, exact := false, read := fun _ => read }
  record.reader fun draft => draft.require ()

def toJson (s : Statement) : Json :=
  .object ([("select", Json.wrap "columns" (Json.list Column.toJson s.columns)),
      ("from", Json.wrap "table" (.string s.table))] ++
    Json.optional "where" (fun o => Json.wrap "condition" (Operation.toJson o)) s.condition ++
    Json.optional "joins" (Json.list Join.toJson) s.joins ++
    Json.optional "group_by" (fun fs => Json.wrap "fields" (Json.list Field.toJson fs)) s.groupBy ++
    Json.optional "order_by" (fun items => Json.wrap "items" (Json.list OrderItem.toJson items))
      s.orderBy ++
    Json.optional "limit" (fun n => Json.wrap "value" (Json.natural n)) s.limit ++
    Json.optional "offset" (fun n => Json.wrap "value" (Json.natural n)) s.offset)

inductive Key where
  | select
  | table
  | condition
  | joins
  | groupBy
  | orderBy
  | limit
  | offset
  deriving DecidableEq, Repr

def record : Record Key where
  Entry
    | .select => List Column
    | .table => String
    | .condition => Option Operation
    | .joins => Option (List Join)
    | .groupBy => Option (List Field)
    | .orderBy => Option (List OrderItem)
    | .limit => Option UInt64
    | .offset => Option UInt64
  keys := [.select, .table, .condition, .joins, .groupBy, .orderBy, .limit, .offset]
  name
    | .select => "select"
    | .table => "from"
    | .condition => "where"
    | .joins => "joins"
    | .groupBy => "group_by"
    | .orderBy => "order_by"
    | .limit => "limit"
    | .offset => "offset"
  aliases _ := []
  optional key := key != .select && key != .table
  exact := false
  read
    | .select => wrapped "columns" (Json.readList Column.read)
    | .table => wrapped "table" Json.readString
    | .condition => Json.readOption (wrapped "condition" Operation.read)
    | .joins => Json.readOption (Json.readList Join.read)
    | .groupBy => Json.readOption (wrapped "fields" (Json.readList Field.read))
    | .orderBy => Json.readOption (wrapped "items" (Json.readList OrderItem.read))
    | .limit => Json.readOption (wrapped "value" Json.readNatural)
    | .offset => Json.readOption (wrapped "value" Json.readNatural)

def ofDraft (draft : record.Draft) : Result Statement := do
  let columns ← draft.require .select
  let table ← draft.require .table
  return ⟨columns, table, (draft .condition).getD none, (draft .joins).getD none,
    (draft .groupBy).getD none, (draft .orderBy).getD none, (draft .limit).getD none,
    (draft .offset).getD none⟩

def read : Reader Statement := record.reader ofDraft

end Statement
end QueryTree
