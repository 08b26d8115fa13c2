import QueryTree.Proofs.Operand.Outline
import QueryTree.Proofs.Query.Lossless
import QueryTree.Proofs.Statement.Json
import QueryTree.Statement.Text

/-! Which clauses a compiled query has, and how each of them is written. The JSON, the text and the
outline have the same clauses; joins stand before the condition in the text and behind it in the other
two. -/
namespace QueryTree

theorem Json.Record.writtenNames {Key : Type} {record : Json.Record Key}
    (encode : (key : Key) → record.Entry key → Json) (draft : record.Draft) (keys : List Key) :
    (record.written encode draft keys).map Prod.fst =
      (keys.filter fun key => (draft key).isSome).map record.name := by
  induction keys with
  | nil => rfl
  | cons key keys ih =>
    cases set : draft key with
    | none => rw [writtenUnset keys set, ih, List.filter_cons_of_neg (by simp [set])]
    | some entry =>
      rw [writtenSet keys set, List.filter_cons_of_pos (by simp [set]), List.map_cons, ih,
        List.map_cons]

namespace Statement

def textOrder : List Key :=
  [.select, .table, .joins, .condition, .groupBy, .orderBy, .limit, .offset]

def parts (s : Statement) : Key → List String
  | .select => ["SELECT " ++ ", ".intercalate (s.columns.map Column.text)]
  | .table => ["FROM " ++ s.table]
  | .condition => (s.condition.map fun o => "WHERE " ++ o.text).toList
  | .joins => (s.joins.getD []).map Join.text
  | .groupBy =>
    (s.groupBy.map fun fs => "GROUP BY " ++ ", ".intercalate (fs.map Field.text)).toList
  | .orderBy =>
    (s.orderBy.map fun items => "ORDER BY " ++ ", ".intercalate (items.map OrderItem.text)).toList
  | .limit => (s.limit.map fun n => "LIMIT " ++ toString n.toNat).toList
  | .offset => (s.offset.map fun n => "OFFSET " ++ toString n.toNat).toList

def sections (s : Statement) : Key → List (List OutlineLine)
  | .select => [⟨0, "select"⟩ :: s.columns.map Column.outline]
  | .table => [[⟨0, "from " ++ s.table⟩]]
  | .condition => (s.condition.map fun o => ⟨0, "where"⟩ :: o.outline 1).toList
  | .joins => (s.joins.getD []).map Join.outline
  | .groupBy =>
    (s.groupBy.map fun fs => ⟨0, "group_by"⟩ :: fs.map fun f => ⟨1, "field " ++ f.text⟩).toList
  | .orderBy => (s.orderBy.map fun items => ⟨0, "order_by"⟩ :: items.map OrderItem.outline).toList
  | .limit => (s.limit.map fun n => [⟨0, "limit " ++ toString n.toNat⟩]).toList
  | .offset => (s.offset.map fun n => [⟨0, "offset " ++ toString n.toNat⟩]).toList

def Key.keyword : Key → String
  | .select => "SELECT "
  | .table => "FROM "
  | .condition => "WHERE "
  | .joins => " JOIN "
  | .groupBy => "GROUP BY "
  | .orderBy => "ORDER BY "
  | .limit => "LIMIT "
  | .offset => "OFFSET "

def Key.heading : Key → String
  | .select => "select"
  | .table => "from "
  | .condition => "where"
  | .joins => "join "
  | .groupBy => "group_by"
  | .orderBy => "order_by"
  | .limit => "limit "
  | .offset => "offset "

/- The kind of a join stands before its keyword; every other part begins with the keyword. -/
def Key.Opens (key : Key) (part : String) : Prop :=
  ∃ before rest, part = before ++ key.keyword ++ rest ∧ (key ≠ .joins → before = "")

def Key.Heads (key : Key) (lines : List OutlineLine) : Prop :=
  ∃ rest inner, lines = ⟨0, key.heading ++ rest⟩ :: inner ∧ ∀ line ∈ inner, 0 < line.level

theorem clausesParts (s : Statement) : s.clauses = textOrder.flatMap s.parts := by
  simp [clauses, textOrder, parts]

theorem optionalLines {α : Type} (lines : α → List OutlineLine) (clause : Option α) :
    (clause.map lines).toList.flatten = (clause.map lines).getD [] := by
  cases clause <;> simp

theorem outlineSections (s : Statement) :
    s.outline = record.keys.flatMap fun key => (s.sections key).flatten := by
  rw [outlineClauses]
  simp only [record, List.flatMap_cons, List.flatMap_nil, sections, List.append_nil,
    List.flatten_cons, List.flatten_nil, optionalLines, ← List.flatMap_def,
    List.cons_append, List.nil_append]
  cases s.limit <;> cases s.offset <;> rfl

def count (s : Statement) (key : Key) : Nat :=
  if key = .joins then (s.joins.getD []).length else (s.draft key).isSome.toNat

theorem optionCount {α β γ : Type} (f : α → β) (g : α → γ) (clause : Option α) :
    (clause.map f).toList.length = (clause.map g).isSome.toNat := by cases clause <;> rfl

theorem partsCount (s : Statement) (key : Key) : (s.parts key).length = s.count key := by
  cases key with
  | select | table => rfl
  | joins => exact List.length_map ..
  | condition | groupBy | orderBy | limit | offset => exact optionCount ..

theorem sectionsCount (s : Statement) (key : Key) : (s.sections key).length = s.count key := by
  cases key with
  | select | table => rfl
  | joins => exact List.length_map ..
  | condition | groupBy | orderBy | limit | offset => exact optionCount ..

theorem partsOpen (s : Statement) (key : Key) : ∀ part ∈ s.parts key, key.Opens part := by
  intro part inside
  have opens {rest : String} (other : key ≠ .joins) (same : part = key.keyword ++ rest) :
      key.Opens part := ⟨"", rest, by rw [same, String.empty_append], fun _ => rfl⟩
  cases key with
  | select | table =>
    cases List.mem_singleton.mp inside
    exact opens nofun rfl
  | joins =>
    obtain ⟨join, _, rfl⟩ := List.mem_map.mp inside
    exact ⟨Text.uppercase join.kind, join.table ++ aliasText join.aliasName ++ " ON " ++ join.on.text,
      by simp only [Join.text, Key.keyword, String.append_assoc], fun other => absurd rfl other⟩
  | condition | groupBy | orderBy | limit | offset =>
    obtain ⟨_, _, rfl⟩ := Option.map_eq_some_iff.mp (Option.mem_toList.mp inside)
    exact opens nofun rfl

theorem outlineDeep (o : Operation) (level : Nat) : ∀ line ∈ o.outline level, level ≤ line.level := by
  intro line inside
  rw [Operation.outline, Operand.outlineLines] at inside
  obtain ⟨node, _, rfl⟩ := List.mem_map.mp inside
  exact Nat.le_add_right level node.1

theorem sectionsHead (s : Statement) (key : Key) : ∀ lines ∈ s.sections key, key.Heads lines := by
  intro lines inside
  have single {rest : String} (same : lines = [⟨0, key.heading ++ rest⟩]) : key.Heads lines :=
    ⟨rest, [], same, nofun⟩
  have listed {α : Type} {outline : α → OutlineLine} {items : List α}
      (same : lines = ⟨0, key.heading⟩ :: items.map outline) (deep : ∀ a, (outline a).level = 1) :
      key.Heads lines := by
    refine ⟨"", items.map outline, by rw [same, String.append_empty], fun line member => ?_⟩
    obtain ⟨a, _, rfl⟩ := List.mem_map.mp member
    rw [deep]
    exact Nat.one_pos
  cases key with
  | select =>
    cases List.mem_singleton.mp inside
    exact listed rfl fun column => by cases column <;> rfl
  | table =>
    cases List.mem_singleton.mp inside
    exact single rfl
  | condition =>
    obtain ⟨o, _, rfl⟩ := Option.map_eq_some_iff.mp (Option.mem_toList.mp inside)
    exact ⟨"", o.outline 1, rfl, outlineDeep o 1⟩
  | joins =>
    obtain ⟨join, _, rfl⟩ := List.mem_map.mp inside
    refine ⟨join.kind ++ " " ++ join.table ++ join.aliasName.elim "" (" as " ++ ·),
      ⟨1, "on"⟩ :: join.on.outline 2, ?_, fun line member => ?_⟩
    · obtain ⟨kind, table, aliasName, on⟩ := join
      cases aliasName <;> simp [Join.outline, Key.heading, String.append_assoc]
    rcases List.mem_cons.mp member with rfl | below
    · exact Nat.one_pos
    · exact Nat.lt_of_lt_of_le Nat.two_pos (outlineDeep join.on 2 line below)
  | groupBy | orderBy =>
    obtain ⟨_, _, rfl⟩ := Option.map_eq_some_iff.mp (Option.mem_toList.mp inside)
    exact listed rfl fun _ => rfl
  | limit | offset =>
    obtain ⟨_, _, rfl⟩ := Option.map_eq_some_iff.mp (Option.mem_toList.mp inside)
    exact single rfl

end Statement

namespace Query

/-- Whether a query asks for a clause. A filter may be an empty group and a bound may be 0, but a
list without items asks for nothing. -/
def gives (q : Query) : Statement.Key → Bool
  | .select | .table => true
  | .condition => q.filter.isSome
  | .joins => !q.joins.isEmpty
  | .groupBy => !q.groupBy.isEmpty
  | .orderBy => !q.sort.isEmpty
  | .limit => q.limit.isSome
  | .offset => q.offset.isSome

def count (q : Query) (key : Statement.Key) : Nat :=
  if key = .joins then q.joins.length else (q.gives key).toNat

def Names (reference : String) (field : Field) : Prop := field = .resolve reference none

structure Join.Gives (join : Join) (entry : Statement.Join) : Prop where
  kind : entry.kind = join.kind
  table : entry.table = join.object
  aliasName : entry.aliasName = join.aliasName
  on : entry.on = ⟨.comparison .eq, [
    .field (.resolve join.on.localField join.on.localAlias),
    .field (.resolve join.on.foreignField (some (join.aliasName.getD join.object)))]⟩

structure Aggregation.Gives (a : Aggregation) (entry : Statement.Aggregate) : Prop where
  function : entry.function = a.function
  field : entry.field = a.field.map fun f => .resolve f none
  aliasName : entry.aliasName = a.aliasName
  distinct : entry.distinct = a.distinct

structure SortKey.Gives (key : SortKey) (entry : Statement.OrderItem) : Prop where
  field : entry.field = .resolve key.field none
  direction : entry.direction = key.order

structure Entries {α β : Type} (Gives : α → β → Prop) (items : List α) (entries : List β) : Prop where
  count : entries.length = items.length
  position : ∀ (i : Nat) (item : α), items[i]? = some item →
    ∃ entry, entries[i]? = some entry ∧ Gives item entry

structure Selects (q : Query) (columns : List Statement.Column) (fields : List Field)
    (aggregates : List Statement.Aggregate) : Prop where
  split : columns = fields.map .field ++ aggregates.map .aggregate
  wildcard : q.fields = [] → fields = [.wildcard]
  listed : q.fields ≠ [] → Entries Names q.fields fields
  aggregated : Entries Aggregation.Gives q.aggregations aggregates

def Restricts (config : Config) : Option Filter → Option Operation → Prop
  | none, condition => condition = none
  | some filter, condition => ∃ o, filter.compile config.filterSettings = .ok o ∧ condition = some o

structure Filled (config : Config) (q : Query) (s : Statement) : Prop where
  columns : ∃ fields aggregates, q.Selects s.columns fields aggregates
  table : s.table = q.target
  condition : Restricts config q.filter s.condition
  joins : Entries Join.Gives q.joins (s.joins.getD [])
  groupBy : Entries Names q.groupBy (s.groupBy.getD [])
  orderBy : Entries SortKey.Gives q.sort (s.orderBy.getD [])
  limit : s.limit = q.limit
  offset : s.offset = q.offset

theorem entriesMapped {α β : Type} {Gives : α → β → Prop} {compile : α → β}
    (gives : ∀ item, Gives item (compile item)) (items : List α) :
    Entries Gives items (items.map compile) where
  count := List.length_map ..
  position i item here := ⟨compile item, by rw [List.getElem?_map, here]; rfl, gives item⟩

theorem clauseEntries {α β : Type} {Gives : α → β → Prop} {compile : α → β}
    (gives : ∀ item, Gives item (compile item)) (items : List α) :
    Entries Gives items ((clause compile items).getD []) := by
  rw [clauseItems]
  exact entriesMapped gives items

theorem resolveNames (reference : String) : Names reference (.resolve reference none) := rfl

theorem compiledGives (join : Join) : join.Gives join.compile := ⟨rfl, rfl, rfl, rfl⟩

theorem clauseGiven {α β : Type} (compile : α → β) (items : List α) :
    (clause compile items).isSome = !items.isEmpty := by
  unfold clause
  cases items <;> rfl

theorem statementGives (config : Config) (q : Query) (key : Statement.Key) :
    ((q.statement config).draft key).isSome = q.gives key := by
  cases key with
  | select | table => rfl
  | condition => exact Option.isSome_map.trans Option.isSome_map
  | joins | groupBy | orderBy => exact Option.isSome_map.trans (clauseGiven ..)
  | limit | offset => exact Option.isSome_map

theorem statementCount (config : Config) (q : Query) (key : Statement.Key) :
    (q.statement config).count key = q.count key := by
  have joins : ((q.statement config).joins.getD []).length = q.joins.length :=
    (clauseEntries compiledGives q.joins).count
  rw [Statement.count, count, statementGives, joins]

theorem columnsSelected (q : Query) : q.Selects q.columns
    (q.projected.map fun f => .resolve f none) (q.aggregations.map Aggregation.compile) where
  split := by
    simp only [List.map_map]
    exact projectedColumns q
  wildcard none := by
    rw [projected, none]
    rfl
  listed some := by
    rw [projected, if_neg (by simpa using some)]
    exact entriesMapped resolveNames q.fields
  aggregated := entriesMapped (fun _ => ⟨rfl, rfl, rfl, rfl⟩) q.aggregations

theorem filterRestricts {config : Config} {q : Query} {condition : Option Operation}
    (compiled : q.compileFilter config = .ok condition) : Restricts config q.filter condition := by
  unfold compileFilter at compiled
  cases given : q.filter with
  | none =>
    rw [given] at compiled
    exact (Except.ok.inj compiled).symm
  | some filter =>
    simp only [given] at compiled
    cases built : filter.compile config.filterSettings with
    | error e => simp [built] at compiled
    | ok o =>
      rw [built] at compiled
      exact ⟨o, built, (Except.ok.inj compiled).symm⟩

theorem statementFilled {config : Config} {q : Query} {s : Statement}
    (compiled : q.compile config = .ok s) : q.Filled config s := by
  have condition := filterRestricts (compiledParts compiled).1
  cases compiledStatement compiled
  exact {
    columns := ⟨_, _, columnsSelected q⟩
    table := rfl
    condition := condition
    joins := clauseEntries compiledGives q.joins
    groupBy := clauseEntries resolveNames q.groupBy
    orderBy := clauseEntries (fun _ => ⟨rfl, rfl⟩) q.sort
    limit := rfl
    offset := rfl }

/-- A compiled query has a clause just when it asks for one, whichever others it asks for. The JSON has
a member for each such clause, the text has a part that begins with its keyword and the outline a
section under its heading, and for joins both have as many as there are joins. Each entry of a clause
is what the item in its place gives. -/
theorem clausesExact {config : Config} {q : Query} {s : Statement}
    (built : Compiler.build ⟨config, .identity⟩ q = .ok s) :
    (∃ members, s.toJson = .object members ∧
      members.map Prod.fst = (Statement.record.keys.filter q.gives).map Statement.record.name) ∧
    q.Filled config s ∧
    s.text = " ".intercalate (Statement.textOrder.flatMap s.parts) ∧
    s.format = .ok (renderOutline
      (Statement.record.keys.flatMap fun key => (s.sections key).flatten)) ∧
    ∀ key, (s.parts key).length = q.count key ∧ (∀ part ∈ s.parts key, key.Opens part) ∧
      (s.sections key).length = q.count key ∧ ∀ lines ∈ s.sections key, key.Heads lines := by
  rw [buildIdentity] at built
  have filled := statementFilled built
  cases compiledStatement built
  refine ⟨⟨_, Statement.toJsonWritten _, ?_⟩, filled, ?_, ?_, fun key => ?_⟩
  · rw [Json.Record.writtenNames]
    simp only [statementGives]
  · rw [Statement.text, Statement.clausesParts]
  · rw [Statement.formatWritten, Statement.outlineText, Statement.outlineSections]
  · rw [Statement.partsCount, Statement.sectionsCount, statementCount]
    exact ⟨rfl, Statement.partsOpen _ key, rfl, Statement.sectionsHead _ key⟩

/- A query with every clause: its filter is an empty group, its bounds are 0, its second join has no
kind. The other extreme is a query that names its target and nothing else. -/
def laden : Query where
  target := "orders"
  fields := ["id", "u.name"]
  filter := some (.group ⟨.and, [], []⟩)
  joins := [⟨"left", "users", some "u", ⟨"o.user", "id", none⟩⟩,
    ⟨"", "notes", none, ⟨"id", "order", none⟩⟩]
  groupBy := ["u.name", "state"]
  sort := [⟨"u.name", .desc⟩, ⟨"id", .asc⟩]
  limit := some 0
  offset := some 0
  aggregations := [⟨"count", none, none, false⟩, ⟨"sum", some "o.total", some "t", true⟩]

theorem ladenClauses :
    Compiler.build ⟨.standard, .identity⟩ laden = .ok (laden.statement .standard) ∧
    (∃ members, (laden.statement .standard).toJson = .object members ∧ members.map Prod.fst =
      ["select", "from", "where", "joins", "group_by", "order_by", "limit", "offset"]) ∧
    (laden.statement .standard).orderBy =
      some [⟨⟨some "u", "name"⟩, .desc⟩, ⟨⟨none, "id"⟩, .asc⟩] ∧
    laden.Filled .standard (laden.statement .standard) ∧
    (laden.statement .standard).text = "SELECT id, u.name, COUNT(*), SUM(DISTINCT o.total) AS t " ++
      "FROM orders LEFT JOIN users AS u ON o.user = u.id  JOIN notes ON id = notes.order " ++
      "WHERE TRUE GROUP BY u.name, state ORDER BY u.name DESC, id ASC LIMIT 0 OFFSET 0" ∧
    (laden.statement .standard).format = .ok (renderOutline [⟨0, "select"⟩, ⟨1, "field id"⟩,
      ⟨1, "field u.name"⟩, ⟨1, "aggregate COUNT(*)"⟩,
      ⟨1, "aggregate SUM(DISTINCT o.total) AS t"⟩, ⟨0, "from orders"⟩, ⟨0, "where"⟩,
      ⟨1, "operator and"⟩, ⟨0, "join left users as u"⟩, ⟨1, "on"⟩, ⟨2, "operator ="⟩,
      ⟨3, "field o.user"⟩, ⟨3, "field u.id"⟩, ⟨0, "join  notes"⟩, ⟨1, "on"⟩, ⟨2, "operator ="⟩,
      ⟨3, "field id"⟩, ⟨3, "field notes.order"⟩, ⟨0, "group_by"⟩, ⟨1, "field u.name"⟩,
      ⟨1, "field state"⟩, ⟨0, "order_by"⟩, ⟨1, "field u.name DESC"⟩, ⟨1, "field id ASC"⟩,
      ⟨0, "limit 0"⟩, ⟨0, "offset 0"⟩]) ∧
    (∃ members, ((new "orders").statement .standard).toJson = .object members ∧
      members.map Prod.fst = ["select", "from"]) ∧
    ((new "orders").statement .standard).text = "SELECT * FROM orders" ∧
    ((new "orders").statement .standard).format =
      .ok (renderOutline [⟨0, "select"⟩, ⟨1, "field *"⟩, ⟨0, "from orders"⟩]) := by
  have built : Compiler.build ⟨.standard, .identity⟩ laden =
      .ok (laden.statement .standard) := by rfl
  have builtBare : Compiler.build ⟨.standard, .identity⟩ (new "orders") =
      .ok ((new "orders").statement .standard) := by rfl
  obtain ⟨keys, filled, text, drawn, _⟩ := clausesExact built
  obtain ⟨bareKeys, _, bareText, bareDrawn, _⟩ := clausesExact builtBare
  refine ⟨built, keys, by decide, filled, ?_, ?_, bareKeys, ?_, ?_⟩
  · rw [text]
    decide +kernel
  · rw [drawn]
    refine congrArg (fun lines => Except.ok (renderOutline lines)) ?_
    decide
  · rw [bareText]
    decide
  · rw [bareDrawn]
    refine congrArg (fun lines => Except.ok (renderOutline lines)) ?_
    decide

end Query
end QueryTree
