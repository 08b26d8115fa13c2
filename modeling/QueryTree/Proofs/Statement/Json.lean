import QueryTree.Proofs.Operand.Json
import QueryTree.Proofs.Query.Json
import QueryTree.Statement.Json

/-! Statements are read back from their JSON. -/
namespace QueryTree
namespace Statement

open Json (Reads)

def wrapper {α : Type} (name : String) (read : Json.Reader α) : Json.Record Unit where
  Entry _ := α
  keys := [()]
  name _ := name
  aliases _ := []
  optional _ := false
  exact := false
  read _ := read

theorem wrapperSound {α : Type} (name : String) (read : Json.Reader α) :
    (wrapper name read).Sound where
  distinct := by simp [wrapper]
  complete _ := by simp [wrapper]
  named _ := by simp [wrapper, Json.Record.ofName?]

theorem readsWrapped {α : Type} {name : String} {read : Json.Reader α} {json : Json} {a : α}
    (reads : Reads read json a) : Reads (wrapped name read) (Json.wrap name json) a := by
  have written : Json.wrap name json =
      .object ((wrapper name read).written (fun _ _ => json) (fun _ => some a) [()]) := rfl
  rw [written]
  refine Json.readsRecord (wrapperSound name read) (fun key entry set => ?_) rfl
  cases set
  exact reads

namespace Aggregate

def encode : (key : Key) → record.Entry key → Json
  | .function, s => .string s
  | .field, o => Json.orNull Field.toJson o
  | .aliasName, o => Json.orNull .string o
  | .distinct, b => .bool b

def draft (a : Aggregate) : record.Draft
  | .function => some a.function
  | .field => a.field.map some
  | .aliasName => a.aliasName.map some
  | .distinct => some a.distinct

theorem recordSound : record.Sound where
  distinct := by simp [record]
  complete key := by cases key <;> simp [record]
  named key := by cases key <;> rfl

theorem membersWritten (a : Aggregate) : a.members = record.written encode a.draft record.keys := by
  obtain ⟨function, field, aliasName, distinct⟩ := a
  cases field <;> cases aliasName <;> rfl

theorem ofDraftBack (a : Aggregate) : ofDraft a.draft = .ok a := by
  obtain ⟨function, field, aliasName, distinct⟩ := a
  cases field <;> cases aliasName <;> rfl

theorem reads (a : Aggregate) : Reads read a.toJson a := by
  rw [toJson, membersWritten]
  refine Json.readsRecord recordSound (fun key entry set => ?_) (ofDraftBack a)
  cases key with
  | function =>
    cases set
    exact Json.readsString _
  | field => exact Json.readsPresent set nofun fun f _ => Field.reads f
  | aliasName => exact Json.readsPresent set nofun fun s _ => Json.readsString s
  | distinct =>
    cases set
    exact Json.readsBool _

theorem membersUntagged (a : Aggregate) : ∀ member ∈ a.members, member.1 ≠ "type" := by
  obtain ⟨function, field, aliasName, distinct⟩ := a
  cases field <;> cases aliasName <;> simp [members, Json.optional]

end Aggregate

theorem Column.reads (column : Column) : Reads Column.read column.toJson column := by
  cases column with
  | field f => exact Json.readsTagged rfl f.membersUntagged (Json.readsMap Column.field f.reads)
  | aggregate a =>
    exact Json.readsTagged rfl a.membersUntagged (Json.readsMap Column.aggregate a.reads)

namespace Join

def encode : (key : Key) → record.Entry key → Json
  | .kind, s => .string s
  | .table, s => .string s
  | .aliasName, o => Json.orNull .string o
  | .on, o => Operation.toJson o

def draft (j : Join) : record.Draft
  | .kind => some j.kind
  | .table => some j.table
  | .aliasName => j.aliasName.map some
  | .on => some j.on

theorem recordSound : record.Sound where
  distinct := by simp [record]
  complete key := by cases key <;> simp [record]
  named key := by cases key <;> rfl

theorem toJsonWritten (j : Join) : j.toJson = .object (record.written encode j.draft record.keys) := by
  obtain ⟨kind, table, aliasName, on⟩ := j
  cases aliasName <;> rfl

theorem ofDraftBack (j : Join) : ofDraft j.draft = .ok j := by
  obtain ⟨kind, table, aliasName, on⟩ := j
  cases aliasName <;> rfl

theorem reads {j : Join} (recoverable : ∀ l ∈ j.on.literals, l.value.Everywhere Value.Recoverable) :
    Reads read j.toJson j := by
  rw [toJsonWritten]
  refine Json.readsRecord recordSound (fun key entry set => ?_) (ofDraftBack j)
  cases key with
  | kind | table =>
    cases set
    exact Json.readsString _
  | aliasName => exact Json.readsPresent set nofun fun s _ => Json.readsString s
  | on =>
    cases set
    exact Operation.reads recoverable

end Join

namespace OrderItem

def encode : (key : Key) → record.Entry key → Json
  | .field, f => Field.toJson f
  | .direction, direction => .string (SortOrder.name direction)

def draft (item : OrderItem) : record.Draft
  | .field => some item.field
  | .direction => some item.direction

theorem recordSound : record.Sound where
  distinct := by simp [record]
  complete key := by cases key <;> simp [record]
  named key := by cases key <;> rfl

theorem reads (item : OrderItem) : Reads read item.toJson item := by
  have written : item.toJson = .object (record.written encode item.draft record.keys) := rfl
  rw [written]
  refine Json.readsRecord recordSound (fun key entry set => ?_) rfl
  cases key with
  | field =>
    cases set
    exact Field.reads _
  | direction =>
    cases set
    exact Json.readsVariant (SortOrder.ofSpellingBack _)

end OrderItem

def encode : (key : Key) → record.Entry key → Json
  | .select, columns => Json.wrap "columns" (Json.list Column.toJson columns)
  | .table, s => Json.wrap "table" (.string s)
  | .condition, o => Json.orNull (fun o => Json.wrap "condition" (Operation.toJson o)) o
  | .joins, o => Json.orNull (Json.list Join.toJson) o
  | .groupBy, o => Json.orNull (fun fs => Json.wrap "fields" (Json.list Field.toJson fs)) o
  | .orderBy, o => Json.orNull (fun items => Json.wrap "items" (Json.list OrderItem.toJson items)) o
  | .limit, o => Json.orNull (fun n => Json.wrap "value" (Json.natural n)) o
  | .offset, o => Json.orNull (fun n => Json.wrap "value" (Json.natural n)) o

/- An absent clause has no entry, an empty one has an entry that is empty. -/
def draft (s : Statement) : record.Draft
  | .select => some s.columns
  | .table => some s.table
  | .condition => s.condition.map some
  | .joins => s.joins.map some
  | .groupBy => s.groupBy.map some
  | .orderBy => s.orderBy.map some
  | .limit => s.limit.map some
  | .offset => s.offset.map some

theorem recordSound : record.Sound where
  distinct := by simp [record]
  complete key := by cases key <;> simp [record]
  named key := by cases key <;> rfl

theorem toJsonWritten (s : Statement) :
    s.toJson = .object (record.written encode s.draft record.keys) := by
  obtain ⟨columns, table, condition, joins, groupBy, orderBy, limit, offset⟩ := s
  cases condition <;> cases joins <;> cases groupBy <;> cases orderBy <;> cases limit <;>
    cases offset <;> rfl

theorem ofDraftBack (s : Statement) : ofDraft s.draft = .ok s := by
  obtain ⟨columns, table, condition, joins, groupBy, orderBy, limit, offset⟩ := s
  cases condition <;> cases joins <;> cases groupBy <;> cases orderBy <;> cases limit <;>
    cases offset <;> rfl

def literals (s : Statement) : List Literal :=
  s.condition.toList.flatMap Operation.literals ++
    (s.joins.getD []).flatMap fun join => join.on.literals

def Values (p : Value → Prop) (s : Statement) : Prop := ∀ l ∈ s.literals, l.value.Everywhere p

theorem reads {s : Statement} (recoverable : s.Values Value.Recoverable) :
    Reads read s.toJson s := by
  rw [toJsonWritten]
  refine Json.readsRecord recordSound (fun key entry set => ?_) (ofDraftBack s)
  cases key with
  | select =>
    cases set
    exact readsWrapped (Json.readsList fun column _ => Column.reads column)
  | table =>
    cases set
    exact readsWrapped (Json.readsString _)
  | condition =>
    refine Json.readsPresent set nofun fun o same => readsWrapped (Operation.reads fun l inside => ?_)
    refine recoverable l (List.mem_append_left _ ?_)
    rw [same]
    exact List.mem_flatMap.mpr ⟨o, List.mem_singleton_self o, inside⟩
  | joins =>
    refine Json.readsPresent set nofun fun joins same => Json.readsList fun join member =>
      Join.reads fun l inside => ?_
    refine recoverable l (List.mem_append_right _ ?_)
    rw [same]
    exact List.mem_flatMap.mpr ⟨join, member, inside⟩
  | groupBy =>
    exact Json.readsPresent set nofun fun fields _ =>
      readsWrapped (Json.readsList fun f _ => Field.reads f)
  | orderBy =>
    exact Json.readsPresent set nofun fun items _ =>
      readsWrapped (Json.readsList fun item _ => OrderItem.reads item)
  | limit | offset =>
    exact Json.readsPresent set nofun fun n _ => readsWrapped (Json.readsNatural n)

theorem recoverableBack {s : Statement} (recoverable : s.Values Value.Recoverable)
    (within : s.toJson.depth ≤ 127) :
    Json.readDocument read 127 (.ofText s.toJson.compact) = .ok s ∧
    Json.readDocument read 127 (.ofText s.toJson.pretty) = .ok s :=
  Json.writtenRead (reads recoverable) within

theorem recoverableValues {s : Statement} (ordered : s.Values Value.Ordered)
    (portable : s.Values Value.Portable) : s.Values Value.Recoverable := fun l inside =>
  Value.everywhereBoth l.value (ordered l inside) (portable l inside)

structure Ordered extends Statement where
  ordered : toStatement.Values Value.Ordered

theorem documentBack (s : Ordered) (portable : s.Values Value.Portable)
    (within : s.toJson.depth ≤ 127) :
    Json.readDocument read 127 (.ofText s.toJson.compact) = .ok s.toStatement ∧
    Json.readDocument read 127 (.ofText s.toJson.pretty) = .ok s.toStatement :=
  recoverableBack (recoverableValues s.ordered portable) within

/- A tree that no query compiles to: a list of joins and an order that are there and empty, a
comparison of more than two operands, a negation of nothing and a constant of another type. -/
def mistyped : Literal where
  value := .array [.date ⟨-62167219200, 1000, by decide⟩, .object [("$date", .null)]]
  type := .boolean

def rare : Statement where
  columns := [.aggregate ⟨"count", none, some "type", true⟩, .field ⟨some "o", "type"⟩]
  table := "orders"
  condition := some ⟨.comparison .like, [.operation (.connective .not) [], .literal mistyped,
    .operation (.comparison .eq) [.field ⟨none, "*"⟩]]⟩
  joins := some []
  groupBy := none
  orderBy := some []
  limit := some 0
  offset := none

theorem rareValues {p : Value → Prop} (only : mistyped.value.Everywhere p) : rare.Values p := by
  intro l inside
  have same : l = mistyped := by
    simpa [literals, rare, Operation.literals] using inside
  rw [same]
  exact only

theorem rareOrdered : rare.Values Value.Ordered := by
  apply rareValues
  have single : Value.Ascending [("$date", .null)] := by decide
  simp [mistyped, Value.Ordered, single]

theorem rarePortable : rare.Values Value.Portable := by
  apply rareValues
  have year : (Time.Date.ofDayNumber (-719528)).year = 0 := by decide
  simp [mistyped, Value.Portable, Time.Instant.date, year]

theorem rareBack : rare.Values Value.Ordered ∧ rare.Values Value.Portable ∧
    rare.toJson.depth ≤ 127 ∧
    Json.readDocument read 127 (.ofText rare.toJson.compact) = .ok rare ∧
    Json.readDocument read 127 (.ofText rare.toJson.pretty) = .ok rare :=
  ⟨rareOrdered, rarePortable, by decide, documentBack ⟨rare, rareOrdered⟩ rarePortable (by decide)⟩

end Statement
end QueryTree
