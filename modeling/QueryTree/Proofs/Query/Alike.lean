import QueryTree.Proofs.Json.Picked
import QueryTree.Proofs.Query.Edited

/-! Readers that agree on a node and on its edits, and how records, lists and options of such readers
agree again. -/
namespace QueryTree

open QueryTree.Json (Node RawText Reader Result Same Source sameSelf sameFailed sameBind sameMap
  unfitFails)

def Shape.Alike {α : Type} (shape : Shape) (levels others : Nat) (read edited : Node → Result α) :
    Prop :=
  ∀ ⦃m n : Node⦄, Edited shape m n → m.Distinct → m.depth ≤ levels → n.depth ≤ others →
    Same (read m) (edited n)

section

variable {items : List Node} {members : List (RawText × Node)} {levels : Nat}

theorem itemsDistinct (distinct : (Node.array (.ofList .closed items)).Distinct) :
    ∀ item ∈ items, item.Distinct := Json.itemsEverywhere.mp distinct.2

theorem membersDistinct (distinct : (Node.object (.ofList .closed members)).Distinct) :
    ∀ member ∈ members, member.2.Distinct := Json.membersEverywhere.mp distinct.2

theorem itemsLeft (within : (Node.array (.ofList .closed items)).depth ≤ levels) :
    ∃ left, levels = left + 1 ∧ ∀ item ∈ items, item.depth ≤ left := by
  obtain ⟨left, rfl, inner⟩ := Json.levelsLeft within
  exact ⟨left, rfl, Json.itemsWithin.mp inner⟩

theorem membersLeft (within : (Node.object (.ofList .closed members)).depth ≤ levels) :
    ∃ left, levels = left + 1 ∧ ∀ member ∈ members, member.2.depth ≤ left := by
  obtain ⟨left, rfl, inner⟩ := Json.levelsLeft within
  exact ⟨left, rfl, Json.membersWithin.mp inner⟩

end

variable {α : Type} {levels others : Nat}

theorem scalarAlike {shape : Shape} (read : Reader α) (source : Source)
    (flat : ∀ node : Node, node.isScalar = true → read source levels node = read source others node)
    (noArray : ∀ items left a, read source left (.array items) ≠ .ok a)
    (noObject : ∀ members left a, read source left (.object members) ≠ .ok a) :
    shape.Alike levels others (read source levels) (read source others) := by
  intro m n edited _ _ _
  cases edited with
  | scalar kind =>
    rw [flat m kind]
    exact sameSelf _
  | array each => exact sameFailed (noArray _ _) (noArray _ _)
  | object each foreign order => exact sameFailed (noObject _ _) (noObject _ _)

theorem stringAlike (shape : Shape) (source : Source) (levels others : Nat) :
    shape.Alike levels others (Json.readString source levels) (Json.readString source others) :=
  scalarAlike Json.readString source (fun node _ => by cases node <;> rfl) (fun _ _ => unfitFails _)
    fun _ _ => unfitFails _

theorem boolAlike (shape : Shape) (source : Source) (levels others : Nat) :
    shape.Alike levels others (Json.readBool source levels) (Json.readBool source others) :=
  scalarAlike Json.readBool source (fun node _ => by cases node <;> rfl) (fun _ _ => unfitFails _)
    fun _ _ => unfitFails _

theorem naturalAlike (shape : Shape) (source : Source) (levels others : Nat) :
    shape.Alike levels others (Json.readNatural source levels) (Json.readNatural source others) :=
  scalarAlike Json.readNatural source (fun node _ => by cases node <;> rfl) (fun _ _ => unfitFails _)
    fun _ _ => unfitFails _

theorem optionAlike {shape : Shape} {read edited : Reader α} {source : Source}
    (alike : shape.Alike levels others (read source levels) (edited source others)) :
    shape.Alike levels others (Json.readOption read source levels)
      (Json.readOption edited source others) := by
  intro m n edit distinct within withinToo
  have inner := alike edit distinct within withinToo
  cases edit with
  | scalar kind =>
    cases m with
    | null => exact sameSelf _
    | _ => exact sameMap some inner
  | array each => exact sameMap some inner
  | object each foreign order => exact sameMap some inner

theorem itemsSame {shapes : Nat → Shape} {read edited : Node → Result α} {items kept : List Node}
    (alike : ∀ i, (shapes i).Alike levels others read edited) (each : EditedItems shapes items kept)
    (distinct : ∀ item ∈ items, item.Distinct) (within : ∀ item ∈ items, item.depth ≤ levels)
    (withinToo : ∀ item ∈ kept, item.depth ≤ others) :
    Same (Json.readItems read (.ofList .closed items)) (Json.readItems edited (.ofList .closed kept)) := by
  induction items generalizing shapes kept with
  | nil =>
    cases each
    exact sameSelf _
  | cons item items ih =>
    cases each with
    | cons head tail =>
      obtain ⟨distinct, distinctLater⟩ := List.forall_mem_cons.mp distinct
      obtain ⟨within, withinLater⟩ := List.forall_mem_cons.mp within
      obtain ⟨withinToo, withinTooLater⟩ := List.forall_mem_cons.mp withinToo
      have later := ih (fun i => alike (i + 1)) tail distinctLater withinLater withinTooLater
      exact sameBind (alike 0 head distinct within withinToo) fun a _ =>
        sameBind later fun as _ => sameSelf _

theorem listUnfit {read : Reader α} {source : Source} {node : Node}
    (other : ∀ items, node ≠ .array items) (levels : Nat) (values : List α) :
    Json.readList read source levels node ≠ .ok values := by
  have unfit : Json.readList read source levels node = node.unfit := by
    cases levels <;> cases node <;> first | rfl | exact absurd rfl (other _)
  rw [unfit]
  exact unfitFails node values

theorem listAlike {shape inner : Shape} {read edited : Reader α} {source : Source}
    (uniform : ∀ items i, (shape.ofArray items).item i = inner)
    (alike : ∀ left leftToo, left < levels → leftToo < others →
      inner.Alike left leftToo (read source left) (edited source leftToo)) :
    shape.Alike levels others (Json.readList read source levels)
      (Json.readList edited source others) := by
  intro m n edit distinct within withinToo
  cases edit with
  | scalar kind =>
    have other : ∀ items, m ≠ .array items := by
      rintro items rfl
      contradiction
    exact sameFailed (listUnfit other _) (listUnfit other _)
  | array each =>
    obtain ⟨left, rfl, inner⟩ := itemsLeft within
    obtain ⟨leftToo, rfl, innerToo⟩ := itemsLeft withinToo
    refine itemsSame (fun i => ?_) each (itemsDistinct distinct) inner innerToo
    rw [uniform]
    exact alike left leftToo (Nat.lt_succ_self _) (Nat.lt_succ_self _)
  | object each foreign order => exact sameFailed (listUnfit (by simp) _) (listUnfit (by simp) _)

theorem itemsEdited {p : Node → Prop} {shapes : Nat → Shape} {items kept : List Node}
    (each : EditedItems shapes items kept)
    (same : ∀ item ∈ items, ∀ {shape other}, Edited shape item other → (p item ↔ p other)) :
    (∀ item ∈ items, p item) ↔ ∀ item ∈ kept, p item := by
  induction items generalizing shapes kept with
  | nil =>
    cases each
    exact Iff.rfl
  | cons item items ih =>
    cases each with
    | cons head tail =>
      obtain ⟨here, later⟩ := List.forall_mem_cons.mp same
      rw [List.forall_mem_cons, List.forall_mem_cons, here head, ih tail later]

theorem membersKept {p : RawText × Node → Prop} {shape : Shape} {members kept : List (RawText × Node)}
    (each : EditedMembers shape members kept)
    (same : ∀ member ∈ members, ∀ other inner, shape.SameKey member.1 other.1 →
      Edited inner member.2 other.2 → (p member ↔ p other)) :
    (∀ member ∈ members, p member) ↔ ∀ member ∈ kept, p member := by
  induction members generalizing kept with
  | nil =>
    cases each
    exact Iff.rfl
  | cons member members ih =>
    cases each with
    | cons key head tail =>
      obtain ⟨here, later⟩ := List.forall_mem_cons.mp same
      rw [List.forall_mem_cons, List.forall_mem_cons, here (_, _) _ key head, ih tail later]

theorem membersEdited {p : RawText × Node → Prop} {shape : Shape}
    {members kept added edited : List (RawText × Node)} (each : EditedMembers shape members kept)
    (order : edited.Perm (kept ++ added))
    (same : ∀ member ∈ members, ∀ other inner, shape.SameKey member.1 other.1 →
      Edited inner member.2 other.2 → (p member ↔ p other))
    (foreign : ∀ member ∈ added, p member) :
    (∀ member ∈ members, p member) ↔ ∀ member ∈ edited, p member := by
  rw [membersKept each same]
  constructor
  · intro holds member inside
    exact (List.mem_append.mp (order.mem_iff.mp inside)).elim (holds member) (foreign member)
  · exact fun holds member inside => holds member (order.mem_iff.mpr (List.mem_append_left _ inside))

theorem keptLength {shape : Shape} {members kept : List (RawText × Node)}
    (each : EditedMembers shape members kept) : kept.length = members.length := by
  induction members generalizing kept with
  | nil =>
    cases each
    rfl
  | cons member members ih =>
    cases each with
    | cons same head tail => simp [ih tail]

theorem plainKept {kept added edited : List (RawText × Node)}
    (foreign : ∀ member ∈ added, Shape.plain.Foreign member) (order : edited.Perm (kept ++ added)) :
    edited.Perm kept := by
  have none : added = [] := List.eq_nil_iff_forall_not_mem.mpr fun member inside =>
    (foreign member inside).object rfl
  rwa [none, List.append_nil] at order

theorem plainSame {key other : RawText} (same : Shape.plain.SameKey key other) : other = key :=
  same.resolve_right fun ⟨_, listed, _⟩ => nomatch listed

theorem plainMember (key : RawText) : Shape.plain.member key = .plain := by
  unfold Shape.member
  split <;> rfl

theorem sameKeyReads {shape : Shape} {key other : RawText} (same : shape.SameKey key other)
    {p : RawText → Prop} (reads : ∀ t s, t.read = .ok s → p t) : p key ↔ p other := by
  rcases same with rfl | ⟨_, _, a, _, b, _, readKey, readOther⟩
  · exact Iff.rfl
  · exact iff_of_true (reads key a readKey) (reads other b readOther)

theorem foreignReadable {shape : Shape} {member : RawText × Node} (foreign : shape.Foreign member) :
    member.2.Everywhere Node.Readable := by
  obtain ⟨levels, decoded⟩ := foreign.decoded
  exact ((Json.checkExact member.2 levels).mp ((Json.valueExact member.2 levels).mp decoded)).1

theorem foreignSkipped {shape : Shape} {member : RawText × Node} (foreign : shape.Foreign member) :
    member.2.skip = .ok () := by
  refine (Json.skipExact member.2).mpr (Json.everywhereImp ?_ _ (foreignReadable foreign))
  exact Json.soundImp (fun _ ⟨_, read⟩ => Json.readSkip read) fun _ _ => trivial

theorem everywhereEdited {text : RawText → Prop} {number : Json.Numeral → Prop}
    (texts : ∀ t s, t.read = .ok s → text t) (numbers : ∀ n value, n.value = .ok value → number n)
    {shape : Shape} {m n : Node} (edit : Edited shape m n) {levels : Nat} (within : m.depth ≤ levels) :
    m.Everywhere (Node.Sound text number) ↔ n.Everywhere (Node.Sound text number) := by
  -- Members may change their places, so the induction is on the levels and not on the edit.
  induction levels generalizing shape m n with
  | zero =>
    cases edit with
    | scalar kind => exact Iff.rfl
    | array each => obtain ⟨_, _, _⟩ := itemsLeft within; contradiction
    | object each foreign order => obtain ⟨_, _, _⟩ := membersLeft within; contradiction
  | succ levels ih =>
    cases edit with
    | scalar kind => exact Iff.rfl
    | array each =>
      obtain ⟨left, same, inner⟩ := itemsLeft within
      cases same
      rw [Node.Everywhere, Node.Everywhere, Json.itemsEverywhere, Json.itemsEverywhere]
      exact and_congr Iff.rfl (itemsEdited each fun item inside _ _ edit => ih edit (inner item inside))
    | object each foreign order =>
      obtain ⟨left, same, inner⟩ := membersLeft within
      cases same
      have keys := membersEdited (p := fun member => text member.1) each order
        (fun member inside _ _ key _ => sameKeyReads key texts) fun member inside => by
          obtain ⟨name, read, _⟩ := (foreign member inside).named
          exact texts _ _ read
      have values := membersEdited
        (p := fun member => member.2.Everywhere (Node.Sound text number)) each order
        (fun member inside _ _ _ edit => ih edit (inner member inside)) fun member inside =>
          Json.everywhereImp (Json.soundImp (fun t ⟨s, read⟩ => texts t s read)
            fun n ⟨value, read⟩ => numbers n value read) _ (foreignReadable (foreign member inside))
      rw [Node.Everywhere, Node.Everywhere, Json.membersEverywhere, Json.membersEverywhere]
      refine and_congr ?_ values
      simpa only [Node.Sound, Json.membersKeys, List.forall_mem_map] using keys

theorem skipEdited {shape : Shape} {m n : Node} (edit : Edited shape m n) :
    m.skip = .ok () ↔ n.skip = .ok () := by
  rw [Json.skipExact, Json.skipExact]
  exact everywhereEdited (fun _ _ => Json.readSkip) (fun _ _ _ => trivial) edit (Nat.le_refl _)

theorem checkEdited {shape : Shape} {m n : Node} (edit : Edited shape m n) {levels others : Nat}
    (within : m.depth ≤ levels) (withinToo : n.depth ≤ others) :
    m.check levels = .ok () ↔ n.check others = .ok () := by
  rw [Json.checkExact, Json.checkExact, and_iff_left within, and_iff_left withinToo]
  exact everywhereEdited (fun _ s read => ⟨s, read⟩) (fun _ value read => ⟨value, read⟩) edit within

end QueryTree
