import QueryTree.Proofs.Filter.Alike
import QueryTree.Proofs.Query.Json

/-! The query of a document does not depend on the order of members, on the spelling of keys, or on
members that are not known. -/
namespace QueryTree

open QueryTree.Json (Node RawText Same Source sameSelf sameBind sameEither)

namespace Query

namespace JoinOn

def entryShape (_ : Key) : Shape := .plain

theorem covers : Shape.joinOn.Covers record entryShape where
  lax := rfl
  spelled key := by cases key <;> decide
  alike := by decide

theorem entryAlike (source : Source) (key : Key) (left leftToo : Nat) :
    (entryShape key).Alike left leftToo (record.read key source left)
      (record.read key source leftToo) := by
  cases key with
  | localField | foreignField => exact stringAlike _ source left leftToo
  | localAlias => exact optionAlike (stringAlike _ source left leftToo)

theorem alike (source : Source) (levels others : Nat) :
    Shape.joinOn.Alike levels others (read source levels) (read source others) :=
  recordAlike covers (entryAlike source) (fun _ _ _ => itemOrdered (fun _ => rfl) rfl) ofDraft levels
    others

end JoinOn

namespace Join

def entryShape : Key → Shape
  | .on => .joinOn
  | _ => .plain

theorem covers : Shape.join.Covers record entryShape where
  lax := rfl
  spelled key := by cases key <;> decide
  alike := by decide

theorem entryAlike (source : Source) (key : Key) (left leftToo : Nat) :
    (entryShape key).Alike left leftToo (record.read key source left)
      (record.read key source leftToo) := by
  cases key with
  | kind | object => exact stringAlike _ source left leftToo
  | aliasName => exact optionAlike (stringAlike _ source left leftToo)
  | on => exact JoinOn.alike source left leftToo

theorem alike (source : Source) (levels others : Nat) :
    Shape.join.Alike levels others (read source levels) (read source others) :=
  recordAlike covers (entryAlike source) (fun _ _ _ => itemOrdered (fun _ => rfl) rfl) ofDraft levels
    others

end Join

namespace SortKey

def entryShape (_ : Key) : Shape := .plain

theorem covers : Shape.sortKey.Covers record entryShape where
  lax := rfl
  spelled key := by cases key <;> decide
  alike := by decide

theorem entryAlike (source : Source) (key : Key) (left leftToo : Nat) :
    (entryShape key).Alike left leftToo (record.read key source left)
      (record.read key source leftToo) := by
  cases key with
  | field => exact stringAlike _ source left leftToo
  | order => exact variantAlike SortOrder.ofSpelling? source left leftToo

theorem alike (source : Source) (levels others : Nat) :
    Shape.sortKey.Alike levels others (read source levels) (read source others) :=
  recordAlike covers (entryAlike source) (fun _ _ _ => itemOrdered (fun _ => rfl) rfl) ofDraft levels
    others

end SortKey

namespace Aggregation

def entryShape (_ : Key) : Shape := .plain

theorem covers : Shape.aggregation.Covers record entryShape where
  lax := rfl
  spelled key := by cases key <;> decide
  alike := by decide

theorem entryAlike (source : Source) (key : Key) (left leftToo : Nat) :
    (entryShape key).Alike left leftToo (record.read key source left)
      (record.read key source leftToo) := by
  cases key with
  | function => exact stringAlike _ source left leftToo
  | field | aliasName => exact optionAlike (stringAlike _ source left leftToo)
  | distinct => exact boolAlike _ source left leftToo

theorem alike (source : Source) (levels others : Nat) :
    Shape.aggregation.Alike levels others (read source levels) (read source others) :=
  recordAlike covers (entryAlike source) (fun _ _ _ => itemOrdered (fun _ => rfl) rfl) ofDraft levels
    others

end Aggregation

def entryShape : Key → Shape
  | .filter => .filter
  | .joins => .list .join
  | .sort => .list .sortKey
  | .aggregations => .list .aggregation
  | _ => .plain

theorem covers : Shape.query.Covers record entryShape where
  lax := rfl
  spelled key := by cases key <;> decide
  alike := by decide

theorem entryAlike (source : Source) (key : Key) (left leftToo : Nat) :
    (entryShape key).Alike left leftToo (record.read key source left)
      (record.read key source leftToo) := by
  cases key with
  | target => exact stringAlike _ source left leftToo
  | fields | groupBy =>
    exact listAlike (fun _ _ => rfl) fun inner innerToo _ _ =>
      stringAlike .plain source inner innerToo
  | filter => exact optionAlike (Filter.alike source left leftToo)
  | joins =>
    exact listAlike (fun _ _ => rfl) fun inner innerToo _ _ => Join.alike source inner innerToo
  | sort =>
    exact listAlike (fun _ _ => rfl) fun inner innerToo _ _ => SortKey.alike source inner innerToo
  | limit | offset => exact optionAlike (naturalAlike _ source left leftToo)
  | aggregations =>
    exact listAlike (fun _ _ => rfl) fun inner innerToo _ _ => Aggregation.alike source inner innerToo

theorem alike (source : Source) (levels others : Nat) :
    Shape.query.Alike levels others (read source levels) (read source others) :=
  recordAlike covers (entryAlike source) (fun _ _ _ => itemOrdered (fun _ => rfl) rfl) ofDraft levels
    others

theorem rearrangedSame {text edited : String}
    (edit : Edited .query (Json.Document.ofText text).root (Json.Document.ofText edited).root)
    (ends : (Json.Document.ofText edited).more = (Json.Document.ofText text).more)
    (distinct : (Json.Document.ofText text).root.Distinct) :
    (∃ q, ofText text = .ok q ∧ ofText edited = .ok q) ∨
      ∃ fault faultToo, ofText text = .error fault ∧ ofText edited = .error faultToo := by
  -- Each text is read with as many levels as it is deep.
  have root := alike .text _ _ edit distinct (Nat.le_refl _) (Nat.le_refl _)
  have same : Same (ofText text) (ofText edited) := by
    rw [ofText, ofText, Json.readDocument, Json.readDocument, ends]
    exact sameBind root fun _ _ => sameSelf _
  exact sameEither same

def plain : String :=
  "\x7b\"target\":\"t\"," ++
  "\"filter\":\x7b\"field\":\"a\",\"value\":\x7b\"x\":1,\"y\":null\x7d\x7d," ++
  "\"sort\":[\x7b\"field\":\"a\",\"order\":\"desc\"\x7d]\x7d"

def turned : String :=
  "\x7b\"note\":true,\"sort\":[\x7b\"field\":\"a\",\"direction\":\"desc\"\x7d]," ++
  "\"filter\":\x7b\"hint\":null,\"value\":\x7b\"y\":null,\"x\":1\x7d,\"field\":\"a\"\x7d," ++
  "\"object\":\"t\"\x7d"

def plainQuery : Query where
  target := "t"
  fields := []
  filter := some (.leaf ⟨"a", .object [("x", .int 1), ("y", .null)], none⟩)
  joins := []
  groupBy := []
  sort := [⟨"a", .desc⟩]
  limit := none
  offset := none
  aggregations := []

def word (name : String) : RawText := .ofChars name.toList

def point : List (RawText × Node) :=
  [(word "x", .number ⟨false, ['1'], none, none⟩), (word "y", .null)]

def condition (value : List (RawText × Node)) : List (RawText × Node) :=
  [(word "field", .text (word "a")), (word "value", .object (.ofList .closed value))]

def ordering (direction : String) : Node :=
  .object (.ofList .closed [(word "field", .text (word "a")), (word direction, .text (word "desc"))])

def members (target : String) (filter : List (RawText × Node)) (direction : String) :
    List (RawText × Node) :=
  [(word target, .text (word "t")), (word "filter", .object (.ofList .closed filter)),
    (word "sort", .array (.ofList .closed [ordering direction]))]

def plainMembers : List (RawText × Node) := members "target" (condition point) "order"

def turnedCondition : List (RawText × Node) :=
  (condition point.reverse ++ [(word "hint", Node.null)]).reverse

def turnedMembers : List (RawText × Node) :=
  (members "object" turnedCondition "direction" ++ [(word "note", Node.bool true)]).reverse

theorem plainRead : Json.Document.ofText plain = ⟨.object (.ofList .closed plainMembers), false⟩ := by
  decide +kernel

theorem turnedRead :
    Json.Document.ofText turned = ⟨.object (.ofList .closed turnedMembers), false⟩ := by
  decide +kernel

theorem plainDistinct : (Node.object (.ofList .closed plainMembers)).Distinct := by
  have value : (Node.object (.ofList .closed point)).Distinct :=
    ⟨by decide, trivial, trivial, trivial⟩
  have filter : (Node.object (.ofList .closed (condition point))).Distinct :=
    ⟨by decide, trivial, value, trivial⟩
  have sort : (ordering "order").Distinct := ⟨by decide, trivial, trivial, trivial⟩
  exact ⟨by decide, trivial, filter, ⟨trivial, sort, trivial⟩, trivial⟩

theorem conditionEdited : Edited .filter (.object (.ofList .closed (condition point)))
    (.object (.ofList .closed turnedCondition)) := by
  have value : Edited .plain (.object (.ofList .closed point))
      (.object (.ofList .closed point.reverse)) :=
    .object (.cons (.inl rfl) (.scalar rfl) (.cons (.inl rfl) (.scalar rfl) .nil))
      (List.forall_mem_nil _) (List.reverse_perm _)
  have hint : Shape.filter.Foreign (word "hint", .null) :=
    ⟨by decide, ⟨"hint", rfl, by decide⟩, 0, _, rfl⟩
  exact .object (.cons (.inl rfl) (.scalar rfl) (.cons (.inl rfl) value .nil))
    (List.forall_mem_singleton.mpr hint) (List.reverse_perm _)

theorem orderingEdited : Edited .sortKey (ordering "order") (ordering "direction") := by
  have order : Shape.sortKey.SameKey (word "order") (word "direction") :=
    .inr ⟨(["order", "direction"], .plain), by decide, "order", by decide, "direction", by decide,
      rfl, rfl⟩
  exact .object (.cons (.inl rfl) (.scalar rfl) (.cons order (.scalar rfl) .nil))
    (List.forall_mem_nil _) (.refl _)

theorem membersEdited : Edited .query (.object (.ofList .closed plainMembers))
    (.object (.ofList .closed turnedMembers)) := by
  have target : Shape.query.SameKey (word "target") (word "object") :=
    .inr ⟨(["target", "object"], .plain), by decide, "target", by decide, "object", by decide,
      rfl, rfl⟩
  have sort : Edited (.list .sortKey) (.array (.ofList .closed [ordering "order"]))
      (.array (.ofList .closed [ordering "direction"])) :=
    .array (.cons orderingEdited .nil)
  have note : Shape.query.Foreign (word "note", .bool true) :=
    ⟨by decide, ⟨"note", rfl, by decide⟩, 0, _, rfl⟩
  exact .object (.cons target (.scalar rfl)
    (.cons (.inl rfl) conditionEdited (.cons (.inl rfl) sort .nil)))
    (List.forall_mem_singleton.mpr note) (List.reverse_perm _)

theorem turnedSame :
    Edited .query (Json.Document.ofText plain).root (Json.Document.ofText turned).root ∧
    (Json.Document.ofText turned).more = (Json.Document.ofText plain).more ∧
    (Json.Document.ofText plain).root.Distinct ∧
    ofText plain = .ok plainQuery ∧ ofText turned = .ok plainQuery := by
  have edit : Edited .query (Json.Document.ofText plain).root (Json.Document.ofText turned).root := by
    rw [plainRead, turnedRead]
    exact membersEdited
  have ends : (Json.Document.ofText turned).more = (Json.Document.ofText plain).more := by
    rw [plainRead, turnedRead]
  have distinct : (Json.Document.ofText plain).root.Distinct := by
    rw [plainRead]
    exact plainDistinct
  have read : ofText plain = .ok plainQuery := ofTextParsed _ plainRead rfl
  refine ⟨edit, ends, distinct, read, ?_⟩
  rcases rearrangedSame edit ends distinct with ⟨q, first, second⟩ | ⟨fault, _, failed, _⟩
  · rw [read] at first
    cases first
    exact second
  · cases read.symm.trans failed

end Query

end QueryTree
