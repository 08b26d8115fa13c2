import QueryTree.Filter.Basic

/-! Query descriptions: what a front end asks of one collection. -/
namespace QueryTree
namespace Query

structure JoinOn where
  localField : String
  foreignField : String
  localAlias : Option String
  deriving DecidableEq, Repr

structure Join where
  kind : String
  object : String
  aliasName : Option String
  on : JoinOn
  deriving DecidableEq, Repr

structure SortKey where
  field : String
  order : SortOrder
  deriving DecidableEq, Repr

structure Aggregation where
  function : String
  field : Option String
  aliasName : Option String
  distinct : Bool
  deriving DecidableEq, Repr

end Query

structure Query where
  target : String
  fields : List String
  filter : Option Filter
  joins : List Query.Join
  groupBy : List String
  sort : List Query.SortKey
  limit : Option UInt64
  offset : Option UInt64
  aggregations : List Query.Aggregation
  deriving Repr, BEq

namespace Query

def new (target : String) : Query := ⟨target, [], none, [], [], [], none, none, []⟩

inductive Step where
  | fields (fields : List String)
  | filter (filter : Filter)
  | join (join : Join)
  | groupBy (fields : List String)
  | sort (field : String) (order : SortOrder)
  | limit (n : UInt64)
  | offset (n : UInt64)
  | aggregate (aggregation : Aggregation)
  deriving Repr

def apply (q : Query) : Step → Query
  | .fields fields => { q with fields := fields }
  | .filter filter => { q with filter := some filter }
  | .join join => { q with joins := q.joins ++ [join] }
  | .groupBy fields => { q with groupBy := fields }
  | .sort field order => { q with sort := q.sort ++ [⟨field, order⟩] }
  | .limit n => { q with limit := some n }
  | .offset n => { q with offset := some n }
  | .aggregate aggregation => { q with aggregations := q.aggregations ++ [aggregation] }

def build (target : String) (steps : List Step) : Query := steps.foldl apply (new target)

end Query
end QueryTree
