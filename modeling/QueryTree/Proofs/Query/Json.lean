import QueryTree.Proofs.Filter.Json
import QueryTree.Query.Json

/-! Queries are read back from their JSON, as deep as their filters and values may be. -/
namespace QueryTree

open Json (Reads)

theorem SortOrder.ofSpellingBack (order : SortOrder) : ofSpelling? order.name = some order := by
  cases order <;> rfl

namespace Query

namespace JoinOn

def encode : (key : Key) → record.Entry key → Json
  | .localField, s => .string s
  | .foreignField, s => .string s
  | .localAlias, o => Json.orNull .string o

def draft (on : JoinOn) : record.Draft
  | .localField => some on.localField
  | .foreignField => some on.foreignField
  | .localAlias => on.localAlias.map some

theorem recordSound : record.Sound where
  distinct := by simp [record]
  complete key := by cases key <;> simp [record]
  named key := by cases key <;> rfl

theorem toJsonWritten (on : JoinOn) :
    on.toJson = .object (record.written encode on.draft record.keys) := by
  obtain ⟨localField, foreignField, localAlias⟩ := on
  cases localAlias <;> rfl

theorem ofDraftBack (on : JoinOn) : ofDraft on.draft = .ok on := by
  obtain ⟨localField, foreignField, localAlias⟩ := on
  cases localAlias <;> rfl

theorem reads (on : JoinOn) : Reads read on.toJson on := by
  rw [toJsonWritten]
  refine Json.readsRecord recordSound (fun key entry set => ?_) (ofDraftBack on)
  cases key with
  | localField | foreignField =>
    cases set
    exact Json.readsString _
  | localAlias => exact Json.readsPresent set nofun fun s _ => Json.readsString s

end JoinOn

namespace Join

def encode : (key : Key) → record.Entry key → Json
  | .kind, s => .string s
  | .object, s => .string s
  | .aliasName, o => Json.orNull .string o
  | .on, on => JoinOn.toJson on

def draft (join : Join) : record.Draft
  | .kind => some join.kind
  | .object => some join.object
  | .aliasName => join.aliasName.map some
  | .on => some join.on

theorem recordSound : record.Sound where
  distinct := by simp [record]
  complete key := by cases key <;> simp [record]
  named key := by cases key <;> rfl

theorem toJsonWritten (join : Join) :
    join.toJson = .object (record.written encode join.draft record.keys) := by
  obtain ⟨kind, object, aliasName, on⟩ := join
  cases aliasName <;> rfl

theorem ofDraftBack (join : Join) : ofDraft join.draft = .ok join := by
  obtain ⟨kind, object, aliasName, on⟩ := join
  cases aliasName <;> rfl

theorem reads (join : Join) : Reads read join.toJson join := by
  rw [toJsonWritten]
  refine Json.readsRecord recordSound (fun key entry set => ?_) (ofDraftBack join)
  cases key with
  | kind | object =>
    cases set
    exact Json.readsString _
  | aliasName => exact Json.readsPresent set nofun fun s _ => Json.readsString s
  | on =>
    cases set
    exact JoinOn.reads join.on

end Join

namespace SortKey

def encode : (key : Key) → record.Entry key → Json
  | .field, s => .string s
  | .order, order => .string (SortOrder.name order)

def draft (sortKey : SortKey) : record.Draft
  | .field => some sortKey.field
  | .order => some sortKey.order

theorem recordSound : record.Sound where
  distinct := by simp [record]
  complete key := by cases key <;> simp [record]
  named key := by cases key <;> rfl

theorem reads (sortKey : SortKey) : Reads read sortKey.toJson sortKey := by
  have written : sortKey.toJson = .object (record.written encode sortKey.draft record.keys) := rfl
  rw [written]
  refine Json.readsRecord recordSound (fun key entry set => ?_) rfl
  cases key with
  | field =>
    cases set
    exact Json.readsString _
  | order =>
    cases set
    exact Json.readsVariant (SortOrder.ofSpellingBack _)

end SortKey

namespace Aggregation

def encode : (key : Key) → record.Entry key → Json
  | .function, s => .string s
  | .field, o => Json.orNull .string o
  | .aliasName, o => Json.orNull .string o
  | .distinct, b => .bool b

def draft (a : Aggregation) : record.Draft
  | .function => some a.function
  | .field => a.field.map some
  | .aliasName => a.aliasName.map some
  | .distinct => some a.distinct

theorem recordSound : record.Sound where
  distinct := by simp [record]
  complete key := by cases key <;> simp [record]
  named key := by cases key <;> rfl

theorem toJsonWritten (a : Aggregation) :
    a.toJson = .object (record.written encode a.draft record.keys) := by
  obtain ⟨function, field, aliasName, distinct⟩ := a
  cases field <;> cases aliasName <;> rfl

theorem ofDraftBack (a : Aggregation) : ofDraft a.draft = .ok a := by
  obtain ⟨function, field, aliasName, distinct⟩ := a
  cases field <;> cases aliasName <;> rfl

theorem reads (a : Aggregation) : Reads read a.toJson a := by
  rw [toJsonWritten]
  refine Json.readsRecord recordSound (fun key entry set => ?_) (ofDraftBack a)
  cases key with
  | function =>
    cases set
    exact Json.readsString _
  | field | aliasName => exact Json.readsPresent set nofun fun s _ => Json.readsString s
  | distinct =>
    cases set
    exact Json.readsBool _

end Aggregation

def encode : (key : Key) → record.Entry key → Json
  | .target, s => .string s
  | .fields, fields => Json.list .string fields
  | .filter, o => Json.orNull Filter.toJson o
  | .joins, joins => Json.list Join.toJson joins
  | .groupBy, fields => Json.list .string fields
  | .sort, keys => Json.list SortKey.toJson keys
  | .limit, o => Json.orNull Json.natural o
  | .offset, o => Json.orNull Json.natural o
  | .aggregations, aggregations => Json.list Aggregation.toJson aggregations

def draft (q : Query) : record.Draft
  | .target => some q.target
  | .fields => some q.fields
  | .filter => q.filter.map some
  | .joins => some q.joins
  | .groupBy => some q.groupBy
  | .sort => some q.sort
  | .limit => q.limit.map some
  | .offset => q.offset.map some
  | .aggregations => some q.aggregations

theorem recordSound : record.Sound where
  distinct := by simp [record]
  complete key := by cases key <;> simp [record]
  named key := by cases key <;> rfl

theorem toJsonWritten (q : Query) :
    q.toJson = .object (record.written encode q.draft record.keys) := by
  obtain ⟨target, fields, filter, joins, groupBy, sort, limit, offset, aggregations⟩ := q
  cases filter <;> cases limit <;> cases offset <;> rfl

theorem ofDraftBack (q : Query) : ofDraft q.draft = .ok q := by
  obtain ⟨target, fields, filter, joins, groupBy, sort, limit, offset, aggregations⟩ := q
  cases filter <;> cases limit <;> cases offset <;> rfl

def Values (p : Value → Prop) (q : Query) : Prop := ∀ f, q.filter = some f → f.Values p

theorem reads {q : Query} (recoverable : q.Values Value.Recoverable) : Reads read q.toJson q := by
  rw [toJsonWritten]
  refine Json.readsRecord recordSound (fun key entry set => ?_) (ofDraftBack q)
  cases key with
  | target =>
    cases set
    exact Json.readsString _
  | fields | groupBy =>
    cases set
    exact Json.readsList fun s _ => Json.readsString s
  | filter =>
    exact Json.readsPresent set Filter.toJsonNotNull fun f same => Filter.reads (recoverable f same)
  | joins =>
    cases set
    exact Json.readsList fun join _ => Join.reads join
  | sort =>
    cases set
    exact Json.readsList fun key _ => SortKey.reads key
  | limit | offset => exact Json.readsPresent set nofun fun n _ => Json.readsNatural n
  | aggregations =>
    cases set
    exact Json.readsList fun a _ => Aggregation.reads a

theorem ofTextParsed {text : String} {q : Query} (root : Json.Node)
    (parsed : Json.Document.ofText text = ⟨root, false⟩)
    (made : read .text root.depth root = .ok q) : ofText text = .ok q := by
  rw [ofText, parsed]
  exact Json.parsedRead root rfl made

theorem heldBack {q : Query} {text : String} (recoverable : q.Values Value.Recoverable)
    (held : (Json.Document.ofText text).Holds q.toJson) : ofText text = .ok q := by
  -- The text is as deep as the query, so no level is lacking.
  have same := Json.holdsDepth q.toJson held.root
  exact Json.documentRead (reads recoverable) held (Nat.le_of_eq same.symm)

theorem recoverableBack {q : Query} (recoverable : q.Values Value.Recoverable) :
    ofText q.toJson.compact = .ok q ∧ ofText q.toJson.pretty = .ok q := by
  have exact := (reads recoverable).exact
  exact ⟨heldBack recoverable (Json.compactHolds exact),
    heldBack recoverable (Json.prettyHolds exact)⟩

theorem recoverableValues {q : Query} (ordered : q.Values Value.Ordered)
    (portable : q.Values Value.Portable) : q.Values Value.Recoverable := fun f same c inside =>
  Value.everywhereBoth c.value (ordered f same c inside) (portable f same c inside)

structure Ordered extends Query where
  ordered : toQuery.Values Value.Ordered

theorem ofTextBack (q : Ordered) (portable : q.Values Value.Portable) :
    ofText q.toJson.compact = .ok q.toQuery ∧ ofText q.toJson.pretty = .ok q.toQuery :=
  recoverableBack (recoverableValues q.ordered portable)

/- A leap second, an object that only looks like a date, and a group in a group. -/
def paid : Condition := ⟨"paid", .date ⟨1483228799, 1500000000, by decide⟩, some ">="⟩

def tagged : Condition where
  field := "tags"
  value := .array [.int (-5), .string "a \"b\"\n", .object [("$date", .string "soon")],
    .object [("a", .null), ("b", .array [.bool true])]]
  operator := none

def orders : Query where
  target := "orders"
  fields := ["id", "customer.name"]
  filter := some (.group ⟨.or, [paid], [⟨.not, [tagged], []⟩]⟩)
  joins := [⟨"left", "customers", some "customer", ⟨"customer_id", "id", none⟩⟩]
  groupBy := ["id"]
  sort := [⟨"paid", .desc⟩]
  limit := some 18446744073709551615
  offset := none
  aggregations := [⟨"count", none, some "n", true⟩]

theorem ordersValues {p : Value → Prop} (first : paid.value.Everywhere p)
    (second : tagged.value.Everywhere p) : orders.Values p := by
  intro f same c inside
  cases same
  simp only [Filter.visits, Group.visits, Group.visitsAll] at inside
  have either : c = paid ∨ c = tagged := by simpa using inside
  rcases either with rfl | rfl
  · exact first
  · exact second

theorem ordersOrdered : orders.Values Value.Ordered := by
  apply ordersValues
  · trivial
  · have single : Value.Ascending [("$date", .string "soon")] := by decide
    have pair : Value.Ascending [("a", .null), ("b", .array [.bool true])] := by decide
    simp [tagged, Value.Ordered, single, pair]

theorem ordersPortable : orders.Values Value.Portable := by
  apply ordersValues
  · exact ⟨by decide, by decide⟩
  · have noDate : Time.Instant.ofText? ['s', 'o', 'o', 'n'] = none := by decide
    simp [tagged, Value.Portable, noDate]

theorem ordersBack : orders.Values Value.Ordered ∧ orders.Values Value.Portable ∧
    ofText orders.toJson.compact = .ok orders ∧ ofText orders.toJson.pretty = .ok orders :=
  ⟨ordersOrdered, ordersPortable, ofTextBack ⟨orders, ordersOrdered⟩ ordersPortable⟩

end Query
end QueryTree
