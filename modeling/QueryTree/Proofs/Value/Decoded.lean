import QueryTree.Proofs.Json.Gives
import QueryTree.Proofs.Value.Json

/-! Values that were read, and what becomes of them when they are written and read once more. A date
is written in UTC, where its year may have left the four digits that a reader takes; it then stays
the object that it is written as. -/
namespace QueryTree.Value

open QueryTree.Json (Node Items Members bindOk)

def NotFloat : Value → Prop
  | .float _ => False
  | _ => True

def InYears : Value → Prop
  | .date t => 0 ≤ t.date.year ∧ t.date.year ≤ 9999
  | _ => True

def Undated : Value → Prop
  | .object entries =>
    ∀ s, entries = [(dateKey, .string s)] → Time.Instant.ofText? s.toList = none
  | _ => True

structure Decoded (levels : Nat) (v : Value) : Prop where
  ordered : v.Everywhere Ordered
  undated : v.Everywhere Undated
  within : v.toJson.depth ≤ levels

@[simp] theorem everywhereItems {p : Value → Prop} {items : List Value} :
    EverywhereItems p items ↔ ∀ item ∈ items, item.Everywhere p := by
  induction items with
  | nil => simp
  | cons item rest ih => simp [ih]

theorem itemsDepth {items : List Value} {levels : Nat} :
    Json.depthItems (itemsToJson items) ≤ levels ↔ ∀ item ∈ items, item.toJson.depth ≤ levels := by
  induction items with
  | nil => simp [itemsToJson, Json.depthItems]
  | cons item rest ih => rw [itemsToJson, Json.depthItems, Nat.max_le, ih, List.forall_mem_cons]

theorem entriesDepth {entries : List (String × Value)} {levels : Nat} :
    Json.depthMembers (entriesToJson entries) ≤ levels ↔
      ∀ entry ∈ entries, entry.2.toJson.depth ≤ levels := by
  induction entries with
  | nil => simp [entriesToJson, Json.depthMembers]
  | cons entry rest ih =>
    rw [entriesToJson, Json.depthMembers, Nat.max_le, ih, List.forall_mem_cons]

theorem floatDecoded (levels : Nat) (x : Float) : Decoded levels (.float x) where
  ordered := trivial
  undated := trivial
  within := by
    rw [toJson]
    split <;> exact Nat.zero_le _

theorem numberDecoded (levels : Nat) (n : Json.Number) : Decoded levels (ofNumber n) := by
  cases n with
  | integer n =>
    rw [ofNumber]
    split
    · exact ⟨trivial, trivial, Nat.zero_le _⟩
    · exact floatDecoded levels _
  | real x => exact floatDecoded levels x

theorem arrayDecoded {levels : Nat} {items : List Value}
    (decoded : ∀ item ∈ items, Decoded levels item) : Decoded (levels + 1) (.array items) where
  ordered := ⟨trivial, everywhereItems.mpr fun item inside => (decoded item inside).ordered⟩
  undated := ⟨trivial, everywhereItems.mpr fun item inside => (decoded item inside).undated⟩
  within := by
    have inner := itemsDepth.mpr fun item inside => (decoded item inside).within
    rw [toJson, Json.depth]
    omega

theorem objectDecoded {levels : Nat} {entries : List (String × Value)}
    (ascending : Ascending entries) (undated : (Value.object entries).Undated)
    (decoded : ∀ entry ∈ entries, Decoded levels entry.2) :
    Decoded (levels + 1) (.object entries) where
  ordered := ⟨ascending, everywhereEntries.mpr fun entry inside => (decoded entry inside).ordered⟩
  undated := ⟨undated, everywhereEntries.mpr fun entry inside => (decoded entry inside).undated⟩
  within := by
    have inner := entriesDepth.mpr fun entry inside => (decoded entry inside).within
    rw [toJson, Json.depth]
    omega

theorem dateDecoded (levels : Nat) (t : Time.Instant) : Decoded (levels + 1) (.date t) where
  ordered := trivial
  undated := trivial
  within := by simp [toJson, Json.depth, Json.depthMembers]

theorem ofEntriesDecoded {levels : Nat} {entries : List (String × Value)}
    (decoded : ∀ entry ∈ entries, Decoded levels entry.2) :
    Decoded (levels + 1) (ofEntries entries) := by
  have ascending := (sortEntries entries).ascending
  have inside : ∀ entry ∈ (sortEntries entries).items, Decoded levels entry.2 := fun entry among =>
    decoded entry (sortEntriesInside among)
  unfold ofEntries
  split
  · rename_i name s single
    rw [single] at ascending inside
    split
    · split
      · exact dateDecoded levels _
      · rename_i undated
        refine objectDecoded ascending (fun other same => ?_) inside
        cases same
        exact undated
    · rename_i differs
      refine objectDecoded ascending (fun other same => ?_) inside
      cases same
      contradiction
  · rename_i several
    refine objectDecoded ascending (fun other same => ?_) inside
    exact absurd same (several dateKey other)

mutual

theorem ofNodeDecoded : (node : Node) → {levels : Nat} → {v : Value} →
    ofNode levels node = .ok v → Decoded levels v
  | .null, _, _, read => by
    cases read
    exact ⟨trivial, trivial, Nat.zero_le _⟩
  | .bool b, _, _, read => by
    cases read
    exact ⟨trivial, trivial, Nat.zero_le _⟩
  | .number n, _, _, read => by
    rw [ofNode] at read
    obtain ⟨number, _, made⟩ := bindOk read
    cases made
    exact numberDecoded _ number
  | .text t, _, _, read => by
    rw [ofNode] at read
    obtain ⟨s, _, made⟩ := bindOk read
    cases made
    exact ⟨trivial, trivial, Nat.zero_le _⟩
  | .array items, levels, _, read => by
    cases levels with
    | zero => contradiction
    | succ levels =>
      rw [ofNode] at read
      obtain ⟨values, inside, made⟩ := bindOk read
      cases made
      exact arrayDecoded (ofItemsDecoded items inside)
  | .object members, levels, _, read => by
    cases levels with
    | zero => contradiction
    | succ levels =>
      rw [ofNode] at read
      obtain ⟨entries, inside, made⟩ := bindOk read
      cases made
      exact ofEntriesDecoded (ofMembersDecoded members inside)
  | .broken _, _, _, read => by contradiction

theorem ofItemsDecoded : (items : Items) → {levels : Nat} → {values : List Value} →
    ofItems levels items = .ok values → ∀ v ∈ values, Decoded levels v
  | .closed, _, _, read => by
    cases read
    simp
  | .broken _, _, _, read => by contradiction
  | .cons item rest, _, _, read => by
    rw [ofItems] at read
    obtain ⟨value, first, read⟩ := bindOk read
    obtain ⟨values, later, made⟩ := bindOk read
    cases made
    exact List.forall_mem_cons.mpr ⟨ofNodeDecoded item first, ofItemsDecoded rest later⟩

theorem ofMembersDecoded : (members : Members) → {levels : Nat} →
    {entries : List (String × Value)} → ofMembers levels members = .ok entries →
    ∀ entry ∈ entries, Decoded levels entry.2
  | .closed, _, _, read => by
    cases read
    simp
  | .broken _, _, _, read => by contradiction
  | .misplaced _, _, _, read => by contradiction
  | .cons key node rest, _, _, read => by
    rw [ofMembers] at read
    obtain ⟨name, _, read⟩ := bindOk read
    obtain ⟨value, first, read⟩ := bindOk read
    obtain ⟨entries, later, made⟩ := bindOk read
    cases made
    exact List.forall_mem_cons.mpr ⟨ofNodeDecoded node first, ofMembersDecoded rest later⟩

end

theorem readOrdered : Json.Gives Value.read fun v => v.Everywhere Ordered :=
  fun _ _ node _ done => (ofNodeDecoded node done).ordered

mutual

def reread : Value → Value
  | .date t =>
    if 0 ≤ t.date.year ∧ t.date.year ≤ 9999 then .date t else .object [(dateKey, .string t.text)]
  | .array items => .array (rereadItems items)
  | .object entries => .object (rereadEntries entries)
  | v => v

def rereadItems : List Value → List Value
  | [] => []
  | item :: rest => item.reread :: rereadItems rest

def rereadEntries : List (String × Value) → List (String × Value)
  | [] => []
  | (name, value) :: rest => (name, value.reread) :: rereadEntries rest

end

mutual

theorem rereadJson : (v : Value) → v.reread.toJson = v.toJson
  | .date t => by
    rw [reread]
    split <;> rfl
  | .array items => by rw [reread, toJson, toJson, rereadItemsJson items]
  | .object entries => by rw [reread, toJson, toJson, rereadEntriesJson entries]
  | .null | .bool _ | .int _ | .float _ | .string _ => rfl

theorem rereadItemsJson : (items : List Value) →
    itemsToJson (rereadItems items) = itemsToJson items
  | [] => rfl
  | item :: rest => by
    rw [rereadItems, itemsToJson, itemsToJson, rereadJson item, rereadItemsJson rest]

theorem rereadEntriesJson : (entries : List (String × Value)) →
    entriesToJson (rereadEntries entries) = entriesToJson entries
  | [] => rfl
  | (_, value) :: rest => by
    rw [rereadEntries, entriesToJson, entriesToJson, rereadJson value, rereadEntriesJson rest]

end

mutual

theorem rereadSame : (v : Value) → (v.reread = v ↔ v.Everywhere InYears)
  | .date t => by
    rw [reread]
    split
    · rename_i years
      exact ⟨fun _ => years, fun _ => rfl⟩
    · rename_i apart
      exact ⟨fun same => Value.noConfusion same, fun years => absurd years apart⟩
  | .array items => by
    rw [reread, Everywhere, Value.array.injEq, rereadItemsSame items]
    exact (and_iff_right trivial).symm
  | .object entries => by
    rw [reread, Everywhere, Value.object.injEq, rereadEntriesSame entries]
    exact (and_iff_right trivial).symm
  | .null | .bool _ | .int _ | .float _ | .string _ => ⟨fun _ => trivial, fun _ => rfl⟩

theorem rereadItemsSame : (items : List Value) →
    (rereadItems items = items ↔ EverywhereItems InYears items)
  | [] => ⟨fun _ => trivial, fun _ => rfl⟩
  | item :: rest => by
    rw [rereadItems, EverywhereItems, List.cons.injEq, rereadSame item, rereadItemsSame rest]

theorem rereadEntriesSame : (entries : List (String × Value)) →
    (rereadEntries entries = entries ↔ EverywhereEntries InYears entries)
  | [] => ⟨fun _ => trivial, fun _ => rfl⟩
  | (name, value) :: rest => by
    rw [rereadEntries, EverywhereEntries, List.cons.injEq, Prod.mk.injEq, rereadSame value,
      rereadEntriesSame rest, eq_self, true_and]

end

theorem rereadType (v : Value) : v.reread.type = v.type ↔ v.InYears := by
  cases v with
  | date t =>
    rw [reread]
    split
    · rename_i years
      exact ⟨fun _ => years, fun _ => rfl⟩
    · rename_i apart
      exact ⟨fun same => LiteralType.noConfusion same, fun years => absurd years apart⟩
  | _ => exact ⟨fun _ => trivial, fun _ => rfl⟩

theorem rereadString {v : Value} {s : String} (same : v.reread = .string s) : v = .string s := by
  cases v with
  | date t =>
    rw [reread] at same
    split at same <;> contradiction
  | string t => exact same
  | _ => contradiction

theorem rereadUndated {entries : List (String × Value)} (undated : (Value.object entries).Undated) :
    (Value.object (rereadEntries entries)).Undated := by
  intro s same
  cases entries with
  | nil => contradiction
  | cons entry rest =>
    obtain ⟨first, none⟩ := List.cons.inj same
    obtain ⟨named, value⟩ := Prod.mk.inj first
    cases rest with
    | nil => exact undated s (by rw [← named, ← rereadString value])
    | cons => contradiction

theorem rereadNames (entries : List (String × Value)) :
    (rereadEntries entries).map Prod.fst = entries.map Prod.fst := by
  induction entries with
  | nil => rfl
  | cons entry rest ih => rw [rereadEntries, List.map_cons, List.map_cons, ih]

theorem rereadAscending {entries : List (String × Value)} (ascending : Ascending entries) :
    Ascending (rereadEntries entries) := by
  have names := List.pairwise_map.mpr ascending
  rw [← rereadNames] at names
  exact List.pairwise_map.mp names

theorem dateObjectRecoverable {t : Time.Instant}
    (apart : ¬ (0 ≤ t.date.year ∧ t.date.year ≤ 9999)) :
    (Value.object [(dateKey, .string t.text)]).Everywhere Recoverable := by
  refine ⟨⟨List.pairwise_singleton _ _, fun s same => ?_⟩, ⟨trivial, trivial⟩, trivial⟩
  have text : t.text = s := Value.string.inj (Prod.mk.inj (List.cons.inj same).1).2
  rw [← text, Time.Instant.text, String.toList_ofList, Time.stampUnread t apart]

def Writable (v : Value) : Prop := (v.Ordered ∧ v.Undated) ∧ v.NotFloat

mutual

theorem rereadRecoverable : (v : Value) → v.Everywhere Writable →
    v.reread.Everywhere Recoverable
  | .date t, _ => by
    rw [reread]
    split
    · rename_i years
      exact ⟨trivial, years⟩
    · rename_i apart
      exact dateObjectRecoverable apart
  | .array items, ⟨_, inside⟩ => ⟨⟨trivial, trivial⟩, rereadItemsRecoverable items inside⟩
  | .object entries, ⟨here, inside⟩ =>
    ⟨⟨rereadAscending here.1.1, rereadUndated here.1.2⟩, rereadEntriesRecoverable entries inside⟩
  | .float _, here => here.2.elim
  | .null, _ | .bool _, _ | .int _, _ | .string _, _ => ⟨trivial, trivial⟩

theorem rereadItemsRecoverable : (items : List Value) → EverywhereItems Writable items →
    EverywhereItems Recoverable (rereadItems items)
  | [], _ => trivial
  | item :: rest, ⟨head, tail⟩ => ⟨rereadRecoverable item head, rereadItemsRecoverable rest tail⟩

theorem rereadEntriesRecoverable : (entries : List (String × Value)) →
    EverywhereEntries Writable entries → EverywhereEntries Recoverable (rereadEntries entries)
  | [], _ => trivial
  | (_, value) :: rest, ⟨head, tail⟩ =>
    ⟨rereadRecoverable value head, rereadEntriesRecoverable rest tail⟩

end

theorem readsReread {v : Value} (writable : v.Everywhere Writable) :
    Json.Reads Value.read v.toJson v.reread := by
  rw [← rereadJson v]
  exact reads (rereadRecoverable v writable)

/-- A value that was read is read back from its JSON just when all its dates are of years that have
four digits; its type stays the same just when the value itself is no other date. -/
theorem rereadExact {source : Json.Source} {levels : Nat} {node : Node} {v : Value}
    (done : Value.read source levels node = .ok v) (exact : v.Everywhere NotFloat) :
    Json.readDocument Value.read levels (.ofText v.toJson.compact) = .ok v.reread ∧
    Json.readDocument Value.read levels (.ofText v.toJson.pretty) = .ok v.reread ∧
    (v.reread = v ↔ v.Everywhere InYears) ∧ (v.reread.type = v.type ↔ v.InYears) := by
  have decoded := ofNodeDecoded node done
  have writable := everywhereBoth v (everywhereBoth v decoded.ordered decoded.undated) exact
  have written := Json.writtenRead (readsReread writable) decoded.within
  exact ⟨written.1, written.2, rereadSame v, rereadType v⟩

def stamps : Value :=
  .array [.date ⟨1709253000, 250000000, by decide⟩, .date ⟨-62167219260, 0, by decide⟩]

def stampNode (text : String) : Node :=
  .object (.ofList .closed [(.ofChars dateKey.toList, .text (.ofChars text.toList))])

theorem stampsRead : Value.read .text 127 (Json.Document.ofText
    "[\x7b\"$date\":\"2024-02-29T23:30:00.25-01:00\"\x7d,\x7b\"$date\":\"0000-01-01T00:00:00+00:01\"\x7d]").root
    = .ok stamps := by
  have parsed : Json.Document.ofText
      "[\x7b\"$date\":\"2024-02-29T23:30:00.25-01:00\"\x7d,\x7b\"$date\":\"0000-01-01T00:00:00+00:01\"\x7d]" =
      ⟨.array (.ofList .closed [stampNode "2024-02-29T23:30:00.25-01:00",
        stampNode "0000-01-01T00:00:00+00:01"]), false⟩ := by decide +kernel
  rw [parsed]
  rfl

theorem stampsReread : stamps.Everywhere NotFloat ∧
    Json.readDocument Value.read 127 (.ofText stamps.toJson.compact) = .ok stamps.reread ∧
    Json.readDocument Value.read 127 (.ofText stamps.toJson.pretty) = .ok stamps.reread ∧
    (stamps.reread = stamps ↔ stamps.Everywhere InYears) ∧
    (stamps.reread.type = stamps.type ↔ stamps.InYears) := by
  have exact : stamps.Everywhere NotFloat := ⟨trivial, trivial, trivial, trivial⟩
  exact ⟨exact, rereadExact stampsRead exact⟩

def late : Time.Instant := ⟨253402300859, 0, by decide⟩

/- The last minute of 9999 west of Greenwich is read as a date and comes back as an object. -/
theorem lateLost :
    Json.readDocument Value.read 127
      (.ofText "\x7b\"$date\":\"9999-12-31T23:59:59-00:01\"\x7d") = .ok (.date late) ∧
    Json.readDocument Value.read 127 (.ofText (Value.date late).toJson.compact) =
      .ok (.object [(dateKey, .string "+10000-01-01T00:00:59+00:00")]) := by
  constructor
  · exact Json.parsedRead (stampNode "9999-12-31T23:59:59-00:01") (by decide +kernel) rfl
  · exact Json.parsedRead (stampNode "+10000-01-01T00:00:59+00:00") (by decide +kernel) rfl

end QueryTree.Value
