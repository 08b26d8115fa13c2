import QueryTree.Operand.Text
import QueryTree.Statement.Basic
import QueryTree.Text.Uppercase

/-! Statements as text on one line, in the manner of a query language. -/
namespace QueryTree
namespace Statement

def aliasText : Option String → String
  | some name => " AS " ++ name
  | none => ""

def Aggregate.text (a : Aggregate) : String :=
  Text.uppercase a.function ++ "(" ++ (if a.distinct then "DISTINCT " else "") ++
    (match a.field with
      | some f => f.text
      | none => "*") ++ ")" ++ aliasText a.aliasName

def Column.text : Column → String
  | .field f => f.text
  | .aggregate a => a.text

def Join.text (j : Join) : String :=
  Text.uppercase j.kind ++ " JOIN " ++ j.table ++ aliasText j.aliasName ++ " ON " ++ j.on.text

def OrderItem.text (item : OrderItem) : String := item.field.text ++ " " ++ item.direction.keyword

def clauses (s : Statement) : List String :=
  ["SELECT " ++ ", ".intercalate (s.columns.map Column.text), "FROM " ++ s.table] ++
    (s.joins.getD []).map Join.text ++
    (s.condition.map fun o => "WHERE " ++ o.text).toList ++
    (s.groupBy.map fun fs => "GROUP BY " ++ ", ".intercalate (fs.map Field.text)).toList ++
    (s.orderBy.map fun items => "ORDER BY " ++ ", ".intercalate (items.map OrderItem.text)).toList ++
    (s.limit.map fun n => "LIMIT " ++ toString n.toNat).toList ++
    (s.offset.map fun n => "OFFSET " ++ toString n.toNat).toList

def text (s : Statement) : String := " ".intercalate s.clauses

end Statement
end QueryTree
