import QueryTree.Config.Basic
import QueryTree.Query.Strict
import QueryTree.Statement.Basic

/-! Queries compiled to statements. Clauses that the query does not have stay absent. -/
namespace QueryTree

/-- A foreign field without a table belongs to the joined one, under its alias if it has one; a
local field only to the local alias, if one is given. -/
def Query.Join.compile (join : Query.Join) : Statement.Join :=
  { kind := join.kind
    table := join.object
    aliasName := join.aliasName
    on := .equation (.resolve join.on.localField join.on.localAlias)
      (.resolve join.on.foreignField (some (join.aliasName.getD join.object))) }

def Query.Aggregation.compile (a : Query.Aggregation) : Statement.Aggregate :=
  ⟨a.function, a.field.map fun f => .resolve f none, a.aliasName, a.distinct⟩

def Query.SortKey.compile (key : Query.SortKey) : Statement.OrderItem :=
  ⟨.resolve key.field none, key.order⟩

namespace Query

def columns (q : Query) : List Statement.Column :=
  (if q.fields.isEmpty then [.field .wildcard] else q.fields.map fun f => .field (.resolve f none)) ++
    q.aggregations.map fun a => .aggregate a.compile

def clause {α β : Type} (compile : α → β) (items : List α) : Option (List β) :=
  if items.isEmpty then none else some (items.map compile)

def compileFilter (config : Config) (q : Query) : Except CompileError (Option Operation) :=
  match q.filter with
  | some filter => some <$> filter.compile config.filterSettings
  | none => .ok none

def compile (config : Config) (q : Query) : Except CompileError Statement := do
  if config.strictFieldRefs then q.checkReferences
  let condition ← q.compileFilter config
  return { columns := q.columns
           table := q.target
           condition := condition
           joins := clause Join.compile q.joins
           groupBy := clause (fun f => Field.resolve f none) q.groupBy
           orderBy := clause SortKey.compile q.sort
           limit := q.limit
           offset := q.offset }

end Query
end QueryTree
