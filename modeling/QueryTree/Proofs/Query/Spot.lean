import QueryTree.Proofs.Filter.Slot
import QueryTree.Proofs.Json.WholeNumber
import QueryTree.Proofs.Query.Json

/-! A query text with a spot for a number: in the value of a condition, in the limit or in the offset.
What is read is what is read with null in the spot, but for the number. -/
namespace QueryTree

namespace Json

theorem spellsNumber (w : WholeNumber) : Spells w.text (.number w.numeral) :=
  fun _ ends => ⟨_, w.textRead ends, fun _ => rfl⟩

end Json

namespace Query

open Json (Reaches Hole Frame Node Spot WholeNumber Spells plug)

def put : (key : Key) → record.Entry key → Query → Query
  | .target, target, q => { q with target := target }
  | .fields, fields, q => { q with fields := fields }
  | .filter, filter, q => { q with filter := filter }
  | .joins, joins, q => { q with joins := joins }
  | .groupBy, groupBy, q => { q with groupBy := groupBy }
  | .sort, sort, q => { q with sort := sort }
  | .limit, limit, q => { q with limit := limit }
  | .offset, offset, q => { q with offset := offset }
  | .aggregations, aggregations, q => { q with aggregations := aggregations }

theorem ofDraftUnset {draft : record.Draft} (unset : draft .target = none) (q : Query) :
    ofDraft draft ≠ .ok q := by
  simp [ofDraft, Json.Record.Draft.require, unset, bind, Except.bind]

theorem ofDraftMade {draft : record.Draft} {target : String} (set : draft .target = some target) :
    ofDraft draft = .ok ⟨target, (draft .fields).getD [], (draft .filter).getD none,
      (draft .joins).getD [], (draft .groupBy).getD [], (draft .sort).getD [],
      (draft .limit).getD none, (draft .offset).getD none, (draft .aggregations).getD []⟩ := by
  simp only [ofDraft, Json.Record.Draft.require, set]
  rfl

theorem putMade {key : Key} (apart : key ≠ .target) {draft : record.Draft} {q : Query}
    (done : ofDraft draft = .ok q) (entry : record.Entry key) :
    ofDraft (draft.set key entry) = .ok (put key entry q) := by
  cases target : draft .target with
  | none => exact absurd done (ofDraftUnset target q)
  | some name =>
    rw [ofDraftMade target] at done
    cases done
    cases key with
    | target => contradiction
    | _ => exact ofDraftMade target

theorem entryThrough {key : Key} (apart : key ≠ .target) {hole : Hole} (here : record.At key hole)
    (source : Json.Source) (levels : Nat) :
    Reaches (fun value => read source levels (hole.fill value)) (record.read key source (levels - 1))
      fun q entry => put key entry q := by
  refine Json.reachesMade (Json.Record.draftThrough recordSound.distinct here source levels)
    fun final => ?_
  cases target : final .target with
  | none =>
    exact .inl fun entry => ofDraftUnset ((Json.Record.setOther final entry apart.symm).trans target)
  | some name => exact .inr ⟨_, putMade apart (ofDraftMade target)⟩

theorem textThrough {spot : Spot} {path : List Frame} {frame : Frame} {key : Key}
    (apart : key ≠ .target) (around : spot.outer = path ++ [frame]) (leads : record.Leads key frame) :
    ∃ holes levels, List.Forall₂ Frame.Becomes path holes ∧
      ((∀ {text value}, Spells text value → value.depth = 0 → ∀ q, ofText (spot.text text) ≠ .ok q) ∨
      ∃ rest, ∀ {text value}, Spells text value → value.depth = 0 → ∀ q,
        ofText (spot.text text) = .ok q ↔
          ∃ entry, record.read key .text levels (plug holes value) = .ok entry ∧ q = put key entry rest) := by
  obtain ⟨all, more, becomes, document⟩ := spot.document
  rw [around] at becomes
  obtain ⟨holes, hole, rfl, inside, last⟩ := Json.becomesLast becomes
  obtain ⟨levels, deep⟩ := Json.fillDeep hole (plug holes .null)
  have reads {text : List Char} {value : Node} (spells : Spells text value) (flat : value.depth = 0) :
      ofText (spot.text text) = (do
        let q ← read .text (levels + 1) (hole.fill (plug holes value))
        if more then Json.malformed else return q) := by
    have depth : (hole.fill (plug holes value)).depth = levels + 1 :=
      (Json.fillDepth hole (Json.plugDepth flat holes)).trans deep
    rw [ofText, document spells, Json.readDocument, Json.plugLast, depth]
  refine ⟨holes, levels, inside, ?_⟩
  rcases entryThrough apart (Json.Record.leadsAt leads last) .text (levels + 1) with blocked | ⟨rest, through⟩
  · refine .inl fun spells flat q done => ?_
    rw [reads spells flat] at done
    obtain ⟨made, reads, _⟩ := Json.bindOk done
    exact blocked _ made reads
  cases more with
  | true =>
    refine .inl fun spells flat q done => ?_
    rw [reads spells flat] at done
    obtain ⟨_, _, failed⟩ := Json.bindOk done
    contradiction
  | false =>
    refine .inr ⟨rest, fun {text value} spells flat q => ?_⟩
    have whole (x : Json.Result Query) : (do
        let q ← x
        if false = true then Json.malformed else return q) = x := by cases x <;> rfl
    rw [reads spells flat, whole]
    exact through (plug holes value) q

inductive Bound where
  | limit
  | offset
  deriving DecidableEq, Repr

def Bound.key : Bound → Key
  | .limit => .limit
  | .offset => .offset

def Bound.put : Bound → Option UInt64 → Query → Query
  | .limit, n?, q => { q with limit := n? }
  | .offset, n?, q => { q with offset := n? }

theorem Bound.putTwice (bound : Bound) (n? m? : Option UInt64) (q : Query) :
    bound.put n? (bound.put m? q) = bound.put n? q := by cases bound <;> rfl

def Bound.get : Bound → Query → Option UInt64
  | .limit, q => q.limit
  | .offset, q => q.offset

structure BoundSpot (bound : Bound) extends Spot where
  frame : Frame
  around : outer = [frame]
  leads : record.Leads bound.key frame

theorem boundThrough {bound : Bound} (spot : BoundSpot bound) :
    (∀ {text value}, Spells text value → value.depth = 0 → ∀ q, ofText (spot.text text) ≠ .ok q) ∨
    ∃ levels rest, ∀ {text value}, Spells text value → value.depth = 0 → ∀ q,
      ofText (spot.text text) = .ok q ↔
        ∃ n?, Json.readOption Json.readNatural .text levels value = .ok n? ∧ q = bound.put n? rest := by
  have around : spot.outer = [] ++ [spot.frame] := spot.around
  have apart : bound.key ≠ .target := by cases bound <;> nofun
  obtain ⟨holes, levels, inside, cases⟩ := textThrough apart around spot.leads
  cases inside
  refine cases.imp_right fun ⟨rest, reads⟩ => ⟨levels, rest, ?_⟩
  cases bound with
  | limit | offset => exact reads

theorem boundRead {bound : Bound} (spot : BoundSpot bound) (w : WholeNumber) (q : Query) :
    ofText (spot.text w.text) = .ok q ↔ w.negative = false ∧ w.value < 2 ^ 64 ∧
      ∃ rest, ∃ n : UInt64, ofText (spot.text ['n', 'u', 'l', 'l']) = .ok rest ∧
        (n.toNat : Int) = w.value ∧ q = bound.put (some n) rest := by
  rcases boundThrough spot with blocked | ⟨levels, rest, reads⟩
  · refine iff_of_false (blocked (Json.spellsNumber w) rfl q) ?_
    rintro ⟨_, _, rest, _, done, _⟩
    exact blocked Json.spellsNull rfl rest done
  · have absent : ofText (spot.text ['n', 'u', 'l', 'l']) = .ok (bound.put none rest) :=
      (reads Json.spellsNull rfl _).mpr ⟨none, rfl, rfl⟩
    have number (n? : Option UInt64) :
        Json.readOption Json.readNatural .text levels (.number w.numeral) = .ok n? ↔
          ∃ n, Json.readNatural .text levels (.number w.numeral) = .ok n ∧ some n = n? := Json.mapOk
    simp only [reads (Json.spellsNumber w) rfl, absent, number, w.naturalExact, Except.ok.injEq]
    constructor
    · rintro ⟨_, ⟨n, ⟨positive, small, same⟩, rfl⟩, rfl⟩
      exact ⟨positive, small, _, n, rfl, same, (bound.putTwice (some n) none rest).symm⟩
    · rintro ⟨positive, small, _, n, rfl, same, rfl⟩
      exact ⟨some n, ⟨n, ⟨positive, small, same⟩, rfl⟩, bound.putTwice (some n) none rest⟩

theorem slotNotNull {slot : Filter.Slot} {path : List Frame} (leads : slot.At path) {holes : List Hole}
    (becomes : List.Forall₂ Frame.Becomes path holes) (source : Json.Source) (levels : Nat) (value : Node) :
    Json.readOption Filter.read source levels (plug holes value) =
      some <$> Filter.read source levels (plug holes value) := by
  obtain ⟨before, frame, rfl⟩ : ∃ before frame, path = before ++ [frame] := by
    cases leads with
    | leaf => exact ⟨[], _, rfl⟩
    | group inside =>
      obtain ⟨_, _, _, _, rfl, _⟩ := Group.lastFrame inside
      exact ⟨_, _, rfl⟩
  obtain ⟨holes, hole, rfl, _, _⟩ := Json.becomesLast becomes
  rw [Json.plugLast]
  cases hole <;> rfl

structure ValueSpot extends Spot where
  path : List Frame
  frame : Frame
  around : outer = path ++ [frame]
  leads : record.Leads .filter frame
  slot : Filter.Slot
  place : slot.At path
  rest : Query
  null : ofText (toSpot.text ['n', 'u', 'l', 'l']) = .ok rest
  filter : rest.filter = some (slot.fill .null)

def ValueSpot.fill (spot : ValueSpot) (v : Value) : Query :=
  { spot.rest with filter := some (spot.slot.fill v) }

theorem valueRead (spot : ValueSpot) (w : WholeNumber) (q : Query) :
    ofText (spot.text w.text) = .ok q ↔
      ∃ v, Value.read .text 0 (.number w.numeral) = .ok v ∧ q = spot.fill v := by
  obtain ⟨spot, path, frame, around, leads, slot, place, rest, null, filter⟩ := spot
  have apart : Key.filter ≠ .target := nofun
  obtain ⟨holes, levels, becomes, cases⟩ := textThrough apart around leads
  rcases cases with blocked | ⟨others, reads⟩
  · exact absurd null (blocked Json.spellsNull rfl rest)
  have entryRead (node : Node) (entry : Option Filter) :
      record.read .filter .text levels (plug holes node) = .ok entry ↔
        ∃ f, Filter.read .text levels (plug holes node) = .ok f ∧ some f = entry := by
    rw [← Json.mapOk, ← slotNotNull place becomes]
    rfl
  obtain ⟨entry, before, rfl⟩ := (reads Json.spellsNull rfl rest).mp null
  obtain ⟨f, whole, rfl⟩ := (entryRead .null entry).mp before
  cases Option.some.inj filter
  have flat : (Node.number w.numeral).depth = 0 := rfl
  rw [reads (Json.spellsNumber w) flat]
  constructor
  · rintro ⟨entry, found, rfl⟩
    obtain ⟨g, read, rfl⟩ := (entryRead _ entry).mp found
    obtain ⟨v, value, rfl⟩ := (Filter.slotRead place becomes whole flat g).mp read
    exact ⟨v, value, rfl⟩
  · rintro ⟨v, value, rfl⟩
    have read := (Filter.slotRead place becomes whole flat _).mpr ⟨v, value, rfl⟩
    exact ⟨_, (entryRead _ _).mpr ⟨_, read, rfl⟩, rfl⟩

end Query
end QueryTree
