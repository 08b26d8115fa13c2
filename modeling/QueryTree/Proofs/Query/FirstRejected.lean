import QueryTree.Proofs.Query.Path
import QueryTree.Proofs.Query.Strict

/-! The strict check stops at the first reference that is not accepted, in the order of a recursive
walk, and the location that it reports leads to this reference. -/
namespace QueryTree

open Reference (Accepted)

structure Place where
  location : Location
  reference : String
  deriving DecidableEq, Repr

def eachPlace {α : Type} (places : Nat → α → List Place) (index : Nat) (items : List α) : List Place :=
  (items.zipIdx index).flatMap fun (a, i) => places i a

mutual

def Group.places (path : List Nat) : Group → List Place
  | ⟨_, conditions, groups⟩ =>
    eachPlace (fun i c => [⟨.condition path i, c.field⟩]) 0 conditions ++ Group.nestedPlaces path 0 groups

def Group.nestedPlaces (path : List Nat) (index : Nat) : List Group → List Place
  | [] => []
  | g :: rest => g.places (path ++ [index]) ++ Group.nestedPlaces path (index + 1) rest

end

def Filter.places : Filter → List Place
  | .leaf c => [⟨.filter, c.field⟩]
  | .group g => g.places []

namespace Query

def filterPlaces (q : Query) : List Place := q.filter.elim [] Filter.places

def joinPlaces (i : Nat) (join : Join) : List Place :=
  [⟨.joinLocal i, join.on.localField⟩, ⟨.joinForeign i, join.on.foreignField⟩]

def places (q : Query) : List Place :=
  eachPlace (fun i r => [⟨.field i, r⟩]) 0 q.fields ++ (q.filterPlaces ++
  (eachPlace joinPlaces 0 q.joins ++ (eachPlace (fun i r => [⟨.groupBy i, r⟩]) 0 q.groupBy ++
  (eachPlace (fun i key => [⟨.sort i, key.field⟩]) 0 q.sort ++
  eachPlace (fun i a => a.field.toList.map fun r => ⟨.aggregation i, r⟩) 0 q.aggregations))))

end Query

def checkPlaces : List Place → Except CompileError Unit
  | [] => .ok ()
  | p :: rest => do
    checkReference p.reference p.location
    checkPlaces rest

theorem checkPlacesOne (p : Place) : checkPlaces [p] = checkReference p.reference p.location := by
  rw [checkPlaces, checkPlaces]
  cases checkReference p.reference p.location <;> rfl

@[simp] theorem checkPlacesAppend (before after : List Place) :
    checkPlaces (before ++ after) = (do checkPlaces before; checkPlaces after) := by
  induction before with
  | nil => rfl
  | cons p rest ih =>
    rw [List.cons_append, checkPlaces, checkPlaces, ih]
    cases checkReference p.reference p.location <;> rfl

theorem eachPlaceCons {α : Type} (places : Nat → α → List Place) (index : Nat) (a : α) (rest : List α) :
    eachPlace places index (a :: rest) = places index a ++ eachPlace places (index + 1) rest := by
  rw [eachPlace, List.zipIdx_cons, List.flatMap_cons]
  rfl

theorem checkEachPlaces {α : Type} {check : Nat → α → Except CompileError Unit}
    (places : Nat → α → List Place) (each : ∀ i a, check i a = checkPlaces (places i a))
    (items : List α) (index : Nat) :
    checkEach check index items = checkPlaces (eachPlace places index items) := by
  induction items generalizing index with
  | nil => rfl
  | cons a rest ih => rw [checkEach, eachPlaceCons, checkPlacesAppend, each, ih]

theorem numberedPlaces (path : List Nat) (index : Nat) (groups : List Group) :
    (numbered path index groups).flatMap (fun w => w.1.places w.2) =
      Group.nestedPlaces path index groups := by
  induction groups generalizing index with
  | nil => simp [numbered, Group.nestedPlaces]
  | cons g rest ih => rw [numbered, List.flatMap_cons, ih, Group.nestedPlaces]

theorem checkPendingPlaces (waiting : List (Group × List Nat)) :
    checkPending waiting = checkPlaces (waiting.flatMap fun w => w.1.places w.2) := by
  -- The groups that wait are the rest of the recursive walk, in its order.
  induction waiting using checkPending.induct with
  | case1 => rw [checkPending, List.flatMap_nil, checkPlaces]
  | case2 operator conditions groups path waiting ih =>
    have here := checkEachPlaces (fun i (c : Condition) => [⟨.condition path i, c.field⟩])
      (fun i c => (checkPlacesOne ⟨.condition path i, c.field⟩).symm) conditions 0
    rw [checkPending, here, ih, List.flatMap_append, numberedPlaces, List.flatMap_cons, Group.places,
      List.append_assoc, checkPlacesAppend (eachPlace _ 0 conditions)]

theorem Filter.checkReferencesPlaces (f : Filter) : f.checkReferences = checkPlaces f.places := by
  cases f with
  | leaf c => exact (checkPlacesOne ⟨.filter, c.field⟩).symm
  | group g => rw [checkReferences, checkPendingPlaces, List.flatMap_singleton, places]

theorem firstRejectedPlace (places : List Place) (e : CompileError) :
    checkPlaces places = .error e ↔ ∃ before p fault after, places = before ++ p :: after ∧
      (∀ b ∈ before, Accepted b.reference) ∧ Reference.parse p.reference = .error fault ∧
      e = .badReference p.reference p.location fault := by
  induction places with
  | nil => simp [checkPlaces]
  | cons p rest ih =>
    rw [checkPlaces, checkReference]
    cases parsed : Reference.parse p.reference with
    | error fault =>
      constructor
      · intro fails
        cases fails
        exact ⟨[], p, fault, rest, rfl, by simp, parsed, rfl⟩
      · rintro ⟨before, found, other, after, split, accepted, rejected, rfl⟩
        cases before with
        | nil =>
          cases split
          cases parsed.symm.trans rejected
          rfl
        | cons b before =>
          cases split
          obtain ⟨r, taken⟩ := accepted p List.mem_cons_self
          cases parsed.symm.trans taken
    | ok r =>
      have later : (do (.ok () : Except CompileError Unit); checkPlaces rest) = checkPlaces rest := rfl
      simp only [later]
      rw [ih]
      constructor
      · rintro ⟨before, found, fault, after, rfl, accepted, rest⟩
        exact ⟨p :: before, found, fault, after, rfl, List.forall_mem_cons.mpr ⟨⟨r, parsed⟩, accepted⟩,
          rest⟩
      · rintro ⟨before, found, fault, after, split, accepted, rejected, same⟩
        cases before with
        | nil =>
          cases split
          cases parsed.symm.trans rejected
        | cons b before =>
          cases split
          exact ⟨before, found, fault, after, rfl, fun b inside => accepted b (.tail _ inside),
            rejected, same⟩

theorem eachPlaceMember {α : Type} {places : Nat → α → List Place} {items : List α} {p : Place}
    (inside : p ∈ eachPlace places 0 items) : ∃ i a, items[i]? = some a ∧ p ∈ places i a := by
  obtain ⟨⟨a, i⟩, among, inside⟩ := List.mem_flatMap.mp inside
  exact ⟨i, a, List.mk_mem_zipIdx_iff_getElem?.mp among, inside⟩

namespace Group

@[simp] theorem followAppend (g : Group) (before after : List Nat) :
    g.follow (before ++ after) = (g.follow before).bind fun nested => nested.follow after := by
  induction before generalizing g with
  | nil => rfl
  | cons i rest ih =>
    rw [List.cons_append, follow, follow, Option.bind_assoc]
    exact congrArg _ (funext ih)

mutual

theorem placesFollowed {root g : Group} {path : List Nat} (here : root.follow path = some g)
    {p : Place} (inside : p ∈ g.places path) : ∃ deeper i nested c,
      p = ⟨.condition deeper i, c.field⟩ ∧ root.follow deeper = some nested ∧
      nested.conditions[i]? = some c := by
  match g with
  | ⟨operator, conditions, groups⟩ =>
    rw [places] at inside
    rcases List.mem_append.mp inside with among | among
    · obtain ⟨i, c, at', same⟩ := eachPlaceMember among
      exact ⟨path, i, _, c, List.mem_singleton.mp same, here, at'⟩
    · refine nestedFollowed (fun i g found => ?_) among
      rw [followAppend, here, Option.bind_some, follow]
      simpa [follow] using found

theorem nestedFollowed {root : Group} {path : List Nat} {index : Nat} {groups : List Group}
    (here : ∀ i g, groups[i]? = some g → root.follow (path ++ [index + i]) = some g)
    {p : Place} (inside : p ∈ nestedPlaces path index groups) : ∃ deeper i nested c,
      p = ⟨.condition deeper i, c.field⟩ ∧ root.follow deeper = some nested ∧
      nested.conditions[i]? = some c := by
  match groups with
  | [] => simp [nestedPlaces] at inside
  | g :: rest =>
    rw [nestedPlaces] at inside
    rcases List.mem_append.mp inside with first | later
    · exact placesFollowed (here 0 g rfl) first
    · refine nestedFollowed (fun i g found => ?_) later
      have shifted := here (i + 1) g found
      rwa [← Nat.add_assoc, Nat.add_right_comm] at shifted

end

end Group

namespace Query

theorem placeReference {q : Query} {p : Place} (inside : p ∈ q.places) :
    q.reference? p.location = some p.reference := by
  simp only [places, List.mem_append] at inside
  rcases inside with field | filter | join | groupBy | sort | aggregation
  · obtain ⟨i, r, found, same⟩ := eachPlaceMember field
    cases List.mem_singleton.mp same
    exact found
  · unfold filterPlaces at filter
    unfold reference?
    cases which : q.filter with
    | none => simp [which] at filter
    | some f =>
      rw [which] at filter
      cases f with
      | leaf c =>
        cases List.mem_singleton.mp filter
        rfl
      | group g =>
        obtain ⟨path, i, nested, c, rfl, followed, found⟩ := Group.placesFollowed rfl filter
        simp [followed, found]
  · obtain ⟨i, join, found, same⟩ := eachPlaceMember join
    rcases List.mem_pair.mp same with rfl | rfl <;> simp [reference?, found]
  · obtain ⟨i, r, found, same⟩ := eachPlaceMember groupBy
    cases List.mem_singleton.mp same
    exact found
  · obtain ⟨i, key, found, same⟩ := eachPlaceMember sort
    cases List.mem_singleton.mp same
    simp [reference?, found]
  · obtain ⟨i, a, found, same⟩ := eachPlaceMember aggregation
    simp only [List.mem_map, Option.mem_toList] at same
    obtain ⟨r, field, rfl⟩ := same
    simp [reference?, found, field]

theorem aggregationPlaces (i : Nat) (a : Aggregation) :
    (match a.field with
      | some r => checkReference r (.aggregation i)
      | none => pure ()) = checkPlaces (a.field.toList.map fun r => ⟨.aggregation i, r⟩) := by
  cases a.field with
  | none => rfl
  | some r => exact (checkPlacesOne ⟨.aggregation i, r⟩).symm

theorem checkReferencesPlaces (q : Query) : q.checkReferences = checkPlaces q.places := by
  have fields := checkEachPlaces (fun i (r : String) => [⟨.field i, r⟩])
    (fun i r => (checkPlacesOne ⟨.field i, r⟩).symm) q.fields 0
  have filter : q.checkFilter = checkPlaces q.filterPlaces := by
    unfold checkFilter filterPlaces
    cases q.filter with
    | none => rfl
    | some f => exact f.checkReferencesPlaces
  have joins := checkEachPlaces joinPlaces (fun i (join : Join) => by
    rw [joinPlaces, checkPlaces, checkPlacesOne]) q.joins 0
  have groupBy := checkEachPlaces (fun i (r : String) => [⟨.groupBy i, r⟩])
    (fun i r => (checkPlacesOne ⟨.groupBy i, r⟩).symm) q.groupBy 0
  have sort := checkEachPlaces (fun i (key : SortKey) => [⟨.sort i, key.field⟩])
    (fun i key => (checkPlacesOne ⟨.sort i, key.field⟩).symm) q.sort 0
  have aggregations := checkEachPlaces _ aggregationPlaces q.aggregations 0
  simp only [places, checkPlacesAppend]
  rw [← fields, ← filter, ← joins, ← groupBy, ← sort, ← aggregations]
  exact q.checkSections

/- The check goes over groups that wait, and yet in the order of the recursive walk. Each place of
this walk is found again by the text of its location. -/
theorem firstRejected (q : Query) :
    q.checkReferences = checkPlaces q.places ∧
    (∀ e, q.checkReferences = .error e ↔ ∃ before p fault after, q.places = before ++ p :: after ∧
      (∀ b ∈ before, Accepted b.reference) ∧ Reference.parse p.reference = .error fault ∧
      e = .badReference p.reference p.location fault) ∧
    ∀ p ∈ q.places, q.reference? p.location = some p.reference ∧
      q.LeadsTo p.location.text p.reference := by
  refine ⟨q.checkReferencesPlaces, fun e => ?_, fun p inside => ?_⟩
  · rw [checkReferencesPlaces, firstRejectedPlace]
  · have typed := placeReference inside
    obtain ⟨found, reached, same⟩ := stepsReach typed
    exact ⟨typed, p.location.steps, found, p.location.textRead, reached, same⟩

def unpaid : Query :=
  build "orders" [.filter (.group (((Group.new .and).equals "ok" .null).nest
    (((Group.new .or).equals "fine" .null).equals "not ok" .null)))]

set_option maxRecDepth 8000 in
theorem unpaidRejected :
    unpaid.checkReferences = .error (.badReference "not ok" (.condition [0] 1) (.unexpected ' ' 3)) ∧
    (Location.condition [0] 1).text = "filter.groups[0].conditions[1]" ∧
    unpaid.LeadsTo "filter.groups[0].conditions[1]" "not ok" := by
  obtain ⟨-, exact', leads⟩ := firstRejected unpaid
  have written : (Location.condition [0] 1).text = "filter.groups[0].conditions[1]" := by decide
  have split : unpaid.places = [⟨.condition [] 0, "ok"⟩, ⟨.condition [0] 0, "fine"⟩] ++
    ⟨.condition [0] 1, "not ok"⟩ :: [] := rfl
  refine ⟨(exact' _).mpr ⟨_, _, _, [], split, ?_, rfl, rfl⟩, written, ?_⟩
  · rw [List.forall_mem_cons, List.forall_mem_singleton]
    exact ⟨⟨⟨none, "ok"⟩, rfl⟩, ⟨⟨none, "fine"⟩, rfl⟩⟩
  · have last := (leads ⟨.condition [0] 1, "not ok"⟩ (by simp [split])).2
    rwa [written] at last

end Query
end QueryTree
