import QueryTree.Proofs.Json.Readers
import QueryTree.Proofs.Time.Stamp
import QueryTree.Proofs.Value.Order
import QueryTree.Value.Json

/-! Values are read back from their JSON, unless they have none of their own: numbers with a point,
dates outside the years of four digits, and objects that look like a date. -/
namespace QueryTree.Value

open QueryTree.Json (Node Items Members Reads ofFaultOk)

def Portable : Value → Prop
  | .float _ => False
  | .date t => 0 ≤ t.date.year ∧ t.date.year ≤ 9999
  | .object entries =>
    ∀ s, entries = [(dateKey, .string s)] → Time.Instant.ofText? s.toList = none
  | _ => True

def Recoverable (v : Value) : Prop := v.Ordered ∧ v.Portable

theorem ofEntriesObject {entries : List (String × Value)}
    (recoverable : (Value.object entries).Recoverable) : ofEntries entries = .object entries := by
  obtain ⟨ascending, portable⟩ := recoverable
  rw [ofEntries, sortAscending ascending]
  split
  · rename_i name s
    split
    · rename_i same
      subst same
      rw [portable s rfl]
    · rfl
  · rfl

theorem ofEntriesDate {t : Time.Instant} (portable : (Value.date t).Portable) :
    ofEntries [(dateKey, .string t.text)] = .date t := by
  have read := Time.stampRead t portable.1 portable.2
  rw [ofEntries, sortAscending (List.pairwise_singleton _ _)]
  simp [Time.Instant.text, read]

theorem ofNumberInt (n : Int64) : ofNumber (.integer n.toInt) = .int n := by
  have low := n.le_toInt
  have high := n.toInt_lt
  rw [ofNumber, if_pos ⟨by omega, by omega⟩, Int64.ofInt_toInt]

mutual

theorem exactJson : (v : Value) → v.Everywhere Recoverable → v.toJson.Exact
  | .null, _ => trivial
  | .bool _, _ => trivial
  | .int n, _ => by
    have low := n.le_toInt
    have high := n.toInt_lt
    exact ⟨by omega, Int.lt_trans high (by decide)⟩
  | .float _, recoverable => recoverable.2.elim
  | .string _, _ => trivial
  | .date _, _ => ⟨trivial, trivial⟩
  | .array items, recoverable => exactItems items recoverable.2
  | .object entries, recoverable => exactEntries entries recoverable.2

theorem exactItems : (items : List Value) → EverywhereItems Recoverable items →
    Json.ExactItems (itemsToJson items)
  | [], _ => trivial
  | item :: rest, ⟨head, tail⟩ => ⟨exactJson item head, exactItems rest tail⟩

theorem exactEntries : (entries : List (String × Value)) → EverywhereEntries Recoverable entries →
    Json.ExactMembers (entriesToJson entries)
  | [], _ => trivial
  | (_, value) :: rest, ⟨head, tail⟩ => ⟨exactJson value head, exactEntries rest tail⟩

end

mutual

def ofJson : Json → Value
  | .null => .null
  | .bool b => .bool b
  | .integer n => ofNumber (.integer n)
  | .real x => ofNumber (.real x)
  | .string s => .string s
  | .array items => .array (itemsOfJson items)
  | .object members => ofEntries (entriesOfJson members)

def itemsOfJson : List Json → List Value
  | [] => []
  | item :: rest => ofJson item :: itemsOfJson rest

def entriesOfJson : List (String × Json) → List (String × Value)
  | [] => []
  | (name, json) :: rest => (name, ofJson json) :: entriesOfJson rest

end

mutual

theorem ofNodeHolds : (json : Json) → {levels : Nat} → {node : Node} → node.Holds json →
    json.depth ≤ levels → ofNode levels node = .ok (ofJson json)
  | .null, _, _, held, _ | .bool _, _, _, held, _ => by
    cases held
    rfl
  | .integer _, _, _, held, _ | .real _, _, _, held, _ => by
    cases held
    rename_i value
    rw [ofNode, ofFaultOk value]
    rfl
  | .string _, _, _, held, _ => by
    cases held with
    | string read =>
      rw [ofNode, ofFaultOk read]
      rfl
  | .array items, levels, _, held, within => by
    obtain ⟨left, rfl, inner⟩ := Json.levelsLeft within
    cases held with
    | array held =>
      rw [ofNode, ofItemsHold items held inner]
      rfl
  | .object members, levels, _, held, within => by
    obtain ⟨left, rfl, inner⟩ := Json.levelsLeft within
    cases held with
    | object held =>
      rw [ofNode, ofMembersHold members held inner]
      rfl

theorem ofItemsHold : (jsons : List Json) → {levels : Nat} → {items : Items} →
    items.Holds jsons → Json.depthItems jsons ≤ levels →
    ofItems levels items = .ok (itemsOfJson jsons)
  | [], _, _, held, _ => by
    cases held with
    | closed => rfl
  | json :: rest, _, _, held, within => by
    obtain ⟨here, others⟩ := Nat.max_le.mp within
    cases held with
    | cons head tail =>
      rw [ofItems, ofNodeHolds json head here, ofItemsHold rest tail others]
      rfl

theorem ofMembersHold : (named : List (String × Json)) → {levels : Nat} → {members : Members} →
    members.Holds named → Json.depthMembers named ≤ levels →
    ofMembers levels members = .ok (entriesOfJson named)
  | [], _, _, held, _ => by
    cases held with
    | closed => rfl
  | (name, json) :: rest, _, _, held, within => by
    obtain ⟨here, others⟩ := Nat.max_le.mp within
    cases held with
    | cons readKey head tail =>
      rw [ofMembers, ofFaultOk readKey, ofNodeHolds json head here, ofMembersHold rest tail others]
      rfl

end

mutual

theorem ofJsonBack : (v : Value) → v.Everywhere Recoverable → ofJson v.toJson = v
  | .int n, _ => by rw [toJson, ofJson, ofNumberInt]
  | .float _, recoverable => recoverable.2.elim
  | .date t, recoverable => by
    rw [toJson, ofJson, entriesOfJson, entriesOfJson, ofJson, ofEntriesDate recoverable.2]
  | .array items, recoverable => by
    rw [toJson, ofJson, itemsOfJsonBack items recoverable.2]
  | .object entries, recoverable => by
    rw [toJson, ofJson, entriesOfJsonBack entries recoverable.2, ofEntriesObject recoverable.1]
  | .null, _ | .bool _, _ | .string _, _ => rfl

theorem itemsOfJsonBack : (items : List Value) → EverywhereItems Recoverable items →
    itemsOfJson (itemsToJson items) = items
  | [], _ => rfl
  | item :: rest, ⟨head, tail⟩ => by
    rw [itemsToJson, itemsOfJson, ofJsonBack item head, itemsOfJsonBack rest tail]

theorem entriesOfJsonBack : (entries : List (String × Value)) →
    EverywhereEntries Recoverable entries → entriesOfJson (entriesToJson entries) = entries
  | [], _ => rfl
  | (_, value) :: rest, ⟨head, tail⟩ => by
    rw [entriesToJson, entriesOfJson, ofJsonBack value head, entriesOfJsonBack rest tail]

end

theorem reads {v : Value} (recoverable : v.Everywhere Recoverable) : Reads Value.read v.toJson v where
  exact := exactJson v recoverable
  back _ levels node held within := by
    have read := ofNodeHolds v.toJson held within
    rwa [ofJsonBack v recoverable] at read

end QueryTree.Value
