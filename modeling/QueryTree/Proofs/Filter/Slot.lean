import QueryTree.Proofs.Filter.Shape
import QueryTree.Proofs.Json.Frames

/-! Filters with a place for the value of one condition. The place in the text leads to the place in the
filter, and all else in the filter does not depend on what value stands there. -/
namespace QueryTree

open Json (Blocked Through Reaches Hole Frame Node Items plug)

namespace Condition

structure Slot where
  field : String
  operator : Option String
  deriving DecidableEq, Repr

def Slot.fill (slot : Slot) (value : Value) : Condition := ⟨slot.field, value, slot.operator⟩

theorem fillOnce {slot other : Slot} {value : Value} (same : slot.fill value = other.fill value) :
    slot = other := by
  obtain ⟨fields, _, operators⟩ := Condition.mk.inj same
  rw [Slot.mk.injEq]
  exact ⟨fields, operators⟩

theorem ofDraftUnset {draft : record.Draft} (unset : draft .field = none) (c : Condition) :
    ofDraft draft ≠ .ok c := by
  simp [ofDraft, Json.Record.Draft.require, unset, bind, Except.bind]

theorem ofDraftMade {draft : record.Draft} {field : String} (set : draft .field = some field) :
    ofDraft draft = .ok ⟨field, (draft .value).getD Value.null, (draft .operator).getD none⟩ := by
  simp only [ofDraft, Json.Record.Draft.require, set]
  rfl

theorem valueThrough {hole : Hole} (here : record.At .value hole) (source : Json.Source) (levels : Nat) :
    Reaches (fun value => read source levels (hole.fill value)) (Value.ofNode (levels - 1)) Slot.fill := by
  refine Json.reachesMade (Json.Record.draftThrough recordSound.distinct here source levels)
    fun final => ?_
  cases field : final .field with
  | none => exact .inl fun value => ofDraftUnset field
  | some name => exact .inr ⟨⟨name, (final .operator).getD none⟩, fun value => ofDraftMade field⟩

theorem foreignThrough {name : Json.RawText} (foreign : record.keyOf name = .ok none)
    (before : List (Json.RawText × Node)) (rest : Json.Members) (source : Json.Source) (levels : Nat) :
    Reaches (fun value => read source levels ((Hole.member before name rest).fill value))
      (fun value => Json.ofFault value.skip) fun (c : Condition) _ => c := by
  refine Json.reachesMade (Json.Record.foreignThrough rfl foreign before rest source levels)
    fun final => ?_
  cases field : final .field with
  | none => exact .inl fun _ => ofDraftUnset field
  | some name => exact .inr ⟨_, fun _ => ofDraftMade field⟩

end Condition

namespace Group

inductive Slot where
  | condition (operator : Connective) (before : List Condition) (slot : Condition.Slot)
    (after : List Condition) (groups : List Group)
  | nested (operator : Connective) (conditions : List Condition) (before : List Group) (slot : Slot)
    (after : List Group)

def Slot.fill : Slot → Value → Group
  | .condition operator before slot after groups, value =>
    ⟨operator, before ++ slot.fill value :: after, groups⟩
  | .nested operator conditions before slot after, value =>
    ⟨operator, conditions, before ++ slot.fill value :: after⟩

inductive Slot.At : Slot → List Frame → Prop
  | condition {operator before slot after groups condition items frame}
    (value : Condition.record.Leads .value condition) (number : List.length before = List.length items)
    (conditions : (record read).Leads .conditions frame) :
    At (.condition operator before slot after groups) [condition, .array items, frame]
  | nested {operator conditions before slot after path items frame}
    (inside : slot.At path) (number : List.length before = List.length items)
    (groups : (record read).Leads .groups frame) :
    At (.nested operator conditions before slot after) (path ++ [.array items] ++ [frame])

theorem conditionsThrough {nested : Json.Reader Group} {hole : Hole}
    (here : (record nested).At .conditions hole) (source : Json.Source) (levels : Nat) :
    Reaches (fun value => (record nested).reader ofDraft source levels (hole.fill value))
      (Json.readList Condition.read source (levels - 1))
      fun (others : Connective × List Group) conditions => ⟨others.1, conditions, others.2⟩ := by
  refine Json.reachesMade (Json.Record.draftThrough recordSound.distinct here source levels)
    fun final => .inr ?_
  exact ⟨((final .operator).getD Connective.and, (final .groups).getD []), fun conditions => rfl⟩

theorem groupsThrough {nested : Json.Reader Group} {hole : Hole}
    (here : (record nested).At .groups hole) (source : Json.Source) (levels : Nat) :
    Reaches (fun value => (record nested).reader ofDraft source levels (hole.fill value))
      (Json.readList nested source (levels - 1))
      fun (others : Connective × List Condition) groups => ⟨others.1, others.2, groups⟩ := by
  refine Json.reachesMade (Json.Record.draftThrough recordSound.distinct here source levels)
    fun final => .inr ?_
  exact ⟨((final .operator).getD Connective.and, (final .conditions).getD []), fun groups => rfl⟩

theorem withinThrough {slot : Slot} {path : List Frame} (leads : slot.At path) :
    ∀ {holes}, List.Forall₂ Frame.Becomes path holes → ∀ (fuel : Nat) (source : Json.Source) (levels : Nat),
      Reaches (fun value => readWithin fuel source levels (plug holes value))
        (Value.ofNode (levels - path.length)) fun found : {slot : Slot // slot.At path} => found.val.fill := by
  induction leads with
  | @condition _ _ _ _ _ condition items frame value _ conditions =>
    intro holes becomes fuel source levels
    obtain ⟨inner, _, first, behind, rfl⟩ := List.forall₂_cons_left_iff.mp becomes
    obtain ⟨list, _, second, last, rfl⟩ := List.forall₂_cons_left_iff.mp behind
    obtain ⟨outer, _, third, none, rfl⟩ := List.forall₂_cons_left_iff.mp last
    cases none
    cases second with
    | array _ rest =>
    cases fuel with
    | zero => exact .inl nofun
    | succ fuel =>
    have here : (record (readWithin fuel)).At .conditions outer := Json.Record.leadsAt conditions third
    have group := Json.reachesInto (fun value => (Hole.item items.reverse rest).fill (inner.fill value))
      (conditionsThrough here source levels)
    have listed := Json.reachesInto inner.fill
      (Json.listAround Condition.read source (levels - 1) items.reverse rest)
    have held := Condition.valueThrough (Json.Record.leadsAt value first) source (levels - 1 - 1)
    refine Json.reachesAs (Json.reachesThen group (Json.reachesThen listed held)) ?_
    rintro ⟨⟨operator, groups⟩, ⟨⟨before, length⟩, after⟩, slot⟩
    rw [List.length_reverse] at length
    exact ⟨⟨.condition operator before slot after groups, .condition value length conditions⟩, rfl⟩
  | @nested _ _ _ _ _ path items frame inside _ groups ih =>
    intro holes becomes fuel source levels
    obtain ⟨within, outer, rfl, ahead, last⟩ := Json.becomesLast becomes
    obtain ⟨holes, list, rfl, deep, second⟩ := Json.becomesLast ahead
    cases second with
    | array _ rest =>
    cases fuel with
    | zero => exact .inl nofun
    | succ fuel =>
    have here : (record (readWithin fuel)).At .groups outer := Json.Record.leadsAt groups last
    have group := Json.reachesInto (fun value => (Hole.item items.reverse rest).fill (plug holes value))
      (groupsThrough here source levels)
    have listed := Json.reachesInto (plug holes)
      (Json.listAround (readWithin fuel) source (levels - 1) items.reverse rest)
    have deeper := ih deep fuel source (levels - 1 - 1)
    have left : levels - 1 - 1 - path.length = levels - (path ++ [Frame.array items] ++ [frame]).length := by
      simp only [List.length_append, List.length_cons, List.length_nil]
      omega
    rw [left] at deeper
    simp only [Json.plugLast]
    refine Json.reachesAs (Json.reachesThen group (Json.reachesThen listed deeper)) ?_
    rintro ⟨⟨operator, conditions⟩, ⟨⟨before, length⟩, after⟩, ⟨slot, further⟩⟩
    rw [List.length_reverse] at length
    exact ⟨⟨.nested operator conditions before slot after, .nested further length groups⟩, rfl⟩

theorem leadsOnce {key other : Key} {frame : Frame} (leads : (record read).Leads key frame)
    (leadsToo : (record read).Leads other frame) : key = other := by
  cases frame with
  | array items => exact Option.some.inj (leads.symm.trans leadsToo)
  | object members name => exact Option.some.inj (Except.ok.inj (leads.symm.trans leadsToo))

theorem framesLast {path others : List Frame} {frame other : Frame}
    (same : path ++ [frame] = others ++ [other]) : path = others ∧ frame = other := by
  obtain ⟨before, last⟩ := List.append_inj' same rfl
  exact ⟨before, List.singleton_inj.mp last⟩

theorem slotOnce {slot : Slot} {path : List Frame} (leads : slot.At path) :
    ∀ {other : Slot} {others : List Frame}, other.At others → others = path → ∀ {value : Value},
      other.fill value = slot.fill value → other = slot := by
  induction leads with
  | @condition _ _ _ _ _ condition items frame _ number conditions =>
    intro other others leadsToo samePath value same
    cases leadsToo with
    | condition _ numberToo _ =>
      cases samePath
      obtain ⟨rfl, lists, rfl⟩ := Group.mk.inj same
      obtain ⟨rfl, behind⟩ := List.append_inj lists (numberToo.trans number.symm)
      obtain ⟨held, rfl⟩ := List.cons.inj behind
      rw [Condition.fillOnce held]
    | nested _ _ groups =>
      have apart : _ = [condition, .array items] ++ [frame] := samePath
      obtain ⟨_, rfl⟩ := framesLast apart
      cases leadsOnce conditions groups
  | @nested _ _ _ _ _ path items frame _ number groups ih =>
    intro other others leadsToo samePath value same
    cases leadsToo with
    | @condition _ _ _ _ _ conditionToo itemsToo frameToo _ _ conditions =>
      have apart : [conditionToo, .array itemsToo] ++ [frameToo] = _ := samePath
      obtain ⟨_, rfl⟩ := framesLast apart
      cases leadsOnce conditions groups
    | nested inside numberToo _ =>
      obtain ⟨ahead, rfl⟩ := framesLast samePath
      obtain ⟨rfl, lists⟩ := framesLast ahead
      cases lists
      obtain ⟨rfl, rfl, nested⟩ := Group.mk.inj same
      obtain ⟨rfl, behind⟩ := List.append_inj nested (numberToo.trans number.symm)
      obtain ⟨held, rfl⟩ := List.cons.inj behind
      rw [ih inside rfl held]

theorem lastFrame {slot : Slot} {path : List Frame} (leads : slot.At path) :
    ∃ inner items frame key, path = inner ++ [.array items] ++ [frame] ∧ key ≠ .operator ∧
      (record read).Leads key frame := by
  cases leads with
  | @condition _ _ _ _ _ condition items frame _ _ conditions =>
    exact ⟨[condition], items, frame, .conditions, rfl, nofun, conditions⟩
  | nested _ _ groups => exact ⟨_, _, _, .groups, rfl, nofun, groups⟩

/- As an array, a group has its conditions where a condition has its value, and its groups where that
has its operator. -/
theorem conditionsAsValue {count : Nat} (here : (record read).keys[count]? = some .conditions) :
    Condition.record.keys[count]? = some .value := by
  match count with
  | 0 | 2 | count + 3 => contradiction
  | 1 => rfl

theorem groupsAsOperator {count : Nat} (here : (record read).keys[count]? = some .groups) :
    Condition.record.keys[count]? = some .operator := by
  match count with
  | 0 | 1 | count + 3 => contradiction
  | 2 => rfl

theorem keyForeign {key : Key} (apart : key ≠ .operator) {name : Json.RawText}
    (here : (record read).keyOf name = .ok (some key)) : Condition.record.keyOf name = .ok none := by
  obtain ⟨text, spelled, found⟩ := Json.Record.keyOfNamed here
  have named := List.find?_some found
  simp only [record, List.contains_nil, Bool.or_false, beq_iff_eq] at named
  rw [Json.Record.keyOf, spelled]
  cases key with
  | operator => contradiction
  | conditions | groups =>
    subst named
    rfl

theorem conditionIndifferent {slot : Slot} {path : List Frame} (leads : slot.At path) {holes : List Hole}
    (becomes : List.Forall₂ Frame.Becomes path holes) {source : Json.Source} {levels : Nat}
    {value other : Node} (whole : (plug holes other).check levels = .ok ()) {c : Condition}
    (done : Condition.read source levels (plug holes value) = .ok c) :
    ∃ d, Condition.read source levels (plug holes other) = .ok d := by
  obtain ⟨inner, items, frame, key, rfl, apart, ends⟩ := lastFrame leads
  obtain ⟨ahead, hole, rfl, around, last⟩ := Json.becomesLast becomes
  obtain ⟨within, list, rfl, _, second⟩ := Json.becomesLast around
  rw [Json.plugLast] at whole done ⊢
  cases levels with
  | zero => cases hole <;> contradiction
  | succ levels =>
  have inside := Json.fillCheck whole
  cases last with
  | object members name rest =>
    have foreign : Condition.record.keyOf name = .ok none := keyForeign apart ends
    rcases Condition.foreignThrough foreign members.reverse rest source (levels + 1)
      with blocked | ⟨d, through⟩
    · exact absurd done (blocked _ c)
    · exact ⟨d, (through _ d).mpr ⟨(), Json.ofFaultOk (Json.checkSkip inside), rfl⟩⟩
  | array entries rest =>
    cases key with
    | operator => contradiction
    | conditions =>
      have here : Condition.record.At .value (.item entries.reverse rest) := by
        rw [Json.Record.At, List.length_reverse]
        exact conditionsAsValue ends
      rcases Condition.valueThrough here source (levels + 1) with blocked | ⟨slot, through⟩
      · exact absurd done (blocked _ c)
      · obtain ⟨v, read⟩ := (Json.valueExact _ levels).mpr inside
        exact ⟨slot.fill v, (through _ _).mpr ⟨v, read, rfl⟩⟩
    | groups =>
      -- An operator is no array.
      exfalso
      have here : Condition.record.At .operator (.item entries.reverse rest) := by
        rw [Json.Record.At, List.length_reverse]
        exact groupsAsOperator ends
      obtain ⟨draft, found, _⟩ := Json.bindOk done
      rcases Json.Record.draftThrough Condition.recordSound.distinct here source (levels + 1)
        with blocked | ⟨final, through⟩
      · exact blocked _ draft found
      · obtain ⟨o, read, _⟩ := (through _ draft).mp found
        cases second
        rw [Json.plugLast] at read
        contradiction

end Group

namespace Filter

inductive Slot where
  | leaf (slot : Condition.Slot)
  | group (slot : Group.Slot)

def Slot.fill : Slot → Value → Filter
  | .leaf slot, value => .leaf (slot.fill value)
  | .group slot, value => .group (slot.fill value)

inductive Slot.At : Slot → List Frame → Prop
  | leaf {slot condition} (value : Condition.record.Leads .value condition) : At (.leaf slot) [condition]
  | group {slot path} (inside : slot.At path) : At (.group slot) path

theorem slotRead {slot : Slot} {path : List Frame} (leads : slot.At path) {holes : List Hole}
    (becomes : List.Forall₂ Frame.Becomes path holes) {source : Json.Source} {levels : Nat}
    (null : read source levels (plug holes .null) = .ok (slot.fill .null)) {node : Node}
    (flat : node.depth = 0) (f : Filter) :
    read source levels (plug holes node) = .ok f ↔
      ∃ v, Value.ofNode (levels - path.length) node = .ok v ∧ f = slot.fill v := by
  have whole := readChecked null
  have checked : (plug holes node).check levels = .ok () ↔ node.Everywhere Node.Readable := by
    obtain ⟨others, readable⟩ := Json.plugReadable holes
    rw [Json.checkExact, readable] at whole ⊢
    have same : node.depth = Node.null.depth := flat
    rw [Json.plugDepth same]
    exact ⟨fun both => both.1.2, fun here => ⟨⟨whole.1.1, here⟩, whole.2⟩⟩
  have decoded : (∃ v, Value.ofNode (levels - path.length) node = .ok v) ↔
      node.Everywhere Node.Readable := by
    rw [Json.valueExact, Json.checkExact, flat]
    exact and_iff_left (Nat.zero_le _)
  have reads {v : Value} (value : Value.ofNode (levels - path.length) node = .ok v) :
      read source levels (plug holes node) = .ok (slot.fill v) := by
    have wholeToo := checked.mpr (decoded.mp ⟨v, value⟩)
    cases leads with
    | leaf condition =>
      obtain ⟨hole, _, first, none, rfl⟩ := List.forall₂_cons_left_iff.mp becomes
      cases none
      have before := (readLeaf whole _).mp null
      rcases Condition.valueThrough (Json.Record.leadsAt condition first) .choice levels
        with blocked | ⟨found, through⟩
      · exact absurd before (blocked _ _)
      obtain ⟨_, absent, same⟩ := (through .null _).mp before
      cases absent
      rw [Condition.fillOnce same]
      exact (readLeaf wholeToo _).mpr ((through node _).mpr ⟨v, value, rfl⟩)
    | @group slot _ inside =>
      obtain ⟨none, before⟩ := (readGroup whole _).mp null
      rcases Group.withinThrough inside becomes (levels + 1) .choice levels
        with blocked | ⟨⟨found, place⟩, through⟩
      · exact absurd before (blocked _ _)
      obtain ⟨_, absent, same⟩ := (through .null _).mp before
      cases absent
      rw [Slot.fill, ← Group.slotOnce inside place rfl same.symm]
      refine (readGroup wholeToo _).mpr ⟨fun c done => ?_, (through node _).mpr ⟨v, value, rfl⟩⟩
      obtain ⟨d, doneToo⟩ := Group.conditionIndifferent inside becomes whole done
      exact none d doneToo
  constructor
  · intro done
    obtain ⟨v, value⟩ := decoded.mpr (checked.mp (readChecked done))
    exact ⟨v, value, Except.ok.inj (done.symm.trans (reads value))⟩
  · rintro ⟨v, value, rfl⟩
    exact reads value

end Filter
end QueryTree
