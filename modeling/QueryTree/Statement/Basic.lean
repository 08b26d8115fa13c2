import QueryTree.Operand.Basic

/-! Statements: queries compiled to trees of clauses. A clause that the query does not have is
absent, which differs from an empty one. -/
namespace QueryTree
namespace Statement

structure Aggregate where
  function : String
  field : Option Field
  aliasName : Option String
  distinct : Bool
  deriving DecidableEq, Repr

inductive Column where
  | field (field : Field)
  | aggregate (aggregate : Aggregate)
  deriving DecidableEq, Repr

structure Join where
  kind : String
  table : String
  aliasName : Option String
  on : Operation
  deriving Repr, BEq

structure OrderItem where
  field : Field
  direction : SortOrder
  deriving DecidableEq, Repr

end Statement

structure Statement where
  columns : List Statement.Column
  table : String
  condition : Option Operation
  joins : Option (List Statement.Join)
  groupBy : Option (List Field)
  orderBy : Option (List Statement.OrderItem)
  limit : Option UInt64
  offset : Option UInt64
  deriving Repr, BEq

end QueryTree
