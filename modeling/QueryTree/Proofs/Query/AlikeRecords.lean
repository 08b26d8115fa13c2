import QueryTree.Proofs.Query.Alike

/-! Records of readers that agree, on an object or array and its edits. -/
namespace QueryTree

open QueryTree.Json (Node RawText Reader Record Result Same Source sameSelf sameOf sameFailed
  sameBind unfitFails)

variable {Key : Type} {record : Record Key}

def Json.Record.withRead (record : Record Key) (read : (key : Key) → Reader (record.Entry key)) :
    Record Key :=
  { record with read := read }

structure Shape.Covers (shape : Shape) (record : Record Key) (content : Key → Shape) : Prop where
  lax : record.exact = false
  spelled : ∀ key, ∀ name ∈ record.name key :: record.aliases key,
    name ∈ shape.names ∧ shape.content name = content key
  alike : ∀ field ∈ shape.fields, ∀ a ∈ field.1, ∀ b ∈ field.1, record.ofName? a = record.ofName? b

variable {shape : Shape} {content : Key → Shape}

theorem itemOrdered (flat : ∀ i, shape.item i = (shape.fields[i]?.map Prod.snd).getD .plain)
    (fields : shape.fields.map Prod.snd = record.keys.map content) {i : Nat} {key : Key}
    (found : record.keys[i]? = some key) : shape.item i = content key := by
  rw [flat, ← List.getElem?_map, fields, List.getElem?_map, found]
  rfl

theorem namedSpelling {name : String} {key : Key} (named : record.ofName? name = some key) :
    name ∈ record.name key :: record.aliases key := by
  have found := List.find?_some named
  simp only [Bool.or_eq_true, beq_iff_eq, List.contains_iff_mem] at found
  exact List.mem_cons.mpr (found.imp_left Eq.symm)

theorem keyOfRead {raw : RawText} {name : String} (read : raw.read = .ok name) :
    record.keyOf raw = .ok (record.ofName? name) := by
  rw [Record.keyOf, read]
  rfl

theorem keyOfSame (covers : shape.Covers record content) {raw other : RawText}
    (same : shape.SameKey raw other) : record.keyOf other = record.keyOf raw := by
  rcases same with rfl | ⟨field, listed, a, inside, b, insideToo, read, readOther⟩
  · rfl
  · rw [keyOfRead read, keyOfRead readOther, covers.alike field listed a inside b insideToo]

theorem keyOfContent (covers : shape.Covers record content) {raw : RawText} {key : Key}
    (named : record.keyOf raw = .ok (some key)) : shape.member raw = content key := by
  cases read : raw.read with
  | error fault =>
    rw [Record.keyOf, read] at named
    contradiction
  | ok name =>
    rw [keyOfRead read, Except.ok.injEq] at named
    rw [Shape.member, read]
    exact (covers.spelled key name (namedSpelling named)).2

theorem keyOfForeign (covers : shape.Covers record content) {member : RawText × Node}
    (foreign : shape.Foreign member) : record.keyOf member.1 = .ok none := by
  obtain ⟨name, read, apart⟩ := foreign.named
  rw [keyOfRead read, Except.ok.injEq]
  cases named : record.ofName? name with
  | none => rfl
  | some key => exact absurd (covers.spelled key name (namedSpelling named)).1 apart

theorem passesEdited (covers : shape.Covers record content)
    {members kept added edited : List (RawText × Node)} (each : EditedMembers shape members kept)
    (foreign : ∀ member ∈ added, shape.Foreign member) (order : edited.Perm (kept ++ added)) :
    (∀ member ∈ members, record.Passes member) ↔ ∀ member ∈ edited, record.Passes member := by
  refine membersEdited each order (fun member _ other inner same edit => ?_) fun member inside => ?_
  · simp only [Record.Passes, keyOfSame covers same, skipEdited edit]
  · have apart := foreign member inside
    exact ⟨none, keyOfForeign covers apart, fun _ => foreignSkipped apart⟩

variable [DecidableEq Key]

theorem picksEdited (covers : shape.Covers record content) {r : Node → Node → Prop} {key : Key}
    {members kept : List (RawText × Node)} (each : EditedMembers shape members kept)
    (related : ∀ member ∈ members, ∀ other ∈ kept, Edited (content key) member.2 other.2 →
      r member.2 other.2) :
    List.Forall₂ r (members.filterMap (record.pick key)) (kept.filterMap (record.pick key)) := by
  induction members generalizing kept with
  | nil =>
    cases each
    exact .nil
  | cons member members ih =>
    cases each with
    | @cons _ raw other value edited _ kept same head tail =>
      have later := ih tail fun member inside other insideToo =>
        related member (.tail _ inside) other (.tail _ insideToo)
      have sameKey := keyOfSame covers same
      cases named : record.keyOf raw with
      | error fault => simpa [Record.pick, named, sameKey] using later
      | ok key? =>
        cases key? with
        | none =>
          rw [Record.picksOther named, Record.picksOther (sameKey.trans named)]
          exact later
        | some k =>
          rw [Record.picksNamed named, Record.picksNamed (sameKey.trans named)]
          split
          · rename_i here
            subst here
            rw [keyOfContent covers named] at head
            exact .cons (related _ List.mem_cons_self _ List.mem_cons_self head) later
          · exact later

theorem picksPerm (covers : shape.Covers record content) {kept added edited : List (RawText × Node)}
    (foreign : ∀ member ∈ added, shape.Foreign member) (order : edited.Perm (kept ++ added))
    (key : Key) : (kept.filterMap (record.pick key)).Perm (edited.filterMap (record.pick key)) := by
  have none : added.filterMap (record.pick key) = [] := by
    rw [List.filterMap_eq_nil_iff]
    intro member inside
    rw [Record.pick, keyOfForeign covers (foreign member inside)]
  have moved := order.filterMap (record.pick key)
  rw [List.filterMap_append, none, List.append_nil] at moved
  exact moved.symm

variable {read : (key : Key) → Reader (record.Entry key)} {source : Source} {left leftToo : Nat}

theorem recordMembersSame (covers : shape.Covers record content)
    (alike : ∀ key, (content key).Alike left leftToo (record.read key source left)
      (read key source leftToo))
    {members kept added edited : List (RawText × Node)} (each : EditedMembers shape members kept)
    (foreign : ∀ member ∈ added, shape.Foreign member) (order : edited.Perm (kept ++ added))
    (distinct : ∀ member ∈ members, member.2.Distinct)
    (within : ∀ member ∈ members, member.2.depth ≤ left)
    (withinToo : ∀ member ∈ edited, member.2.depth ≤ leftToo) :
    Same (record.readMembers source left record.empty (.ofList .closed members))
      ((record.withRead read).readMembers source leftToo record.empty (.ofList .closed edited)) := by
  intro draft
  have here := Record.readMembersExact covers.lax source left members record.empty draft
  have there := @Record.readMembersExact _ (record.withRead read) _ covers.lax source leftToo edited
    record.empty draft
  refine here.trans (Iff.trans ?_ there.symm)
  refine and_congr (passesEdited covers each foreign order) (forall_congr' fun key => ?_)
  have picked : List.Forall₂ (fun value other => ∀ entry, record.read key source left value =
      .ok entry ↔ read key source leftToo other = .ok entry)
      (members.filterMap (record.pick key)) (kept.filterMap (record.pick key)) :=
    picksEdited covers each fun member inside other insideToo edit => alike key edit (distinct member inside) (within member inside)
      (withinToo other (order.mem_iff.mpr (List.mem_append_left _ insideToo)))
  exact (Json.takenSame picked).trans (Json.takenPerm (picksPerm covers foreign order key))

theorem closedSame (draft : record.Draft) (index : Nat) (keys : List Key) :
    record.readItems source left draft index keys .closed =
      (record.withRead read).readItems source leftToo draft index keys .closed := by
  induction keys generalizing index with
  | nil => rfl
  | cons key keys ih =>
    simp only [Record.readItems, ih (index + 1)]
    rfl

theorem recordItemsSame {shapes : Nat → Shape} (keys : List Key)
    (alike : ∀ i key, keys[i]? = some key → (shapes i).Alike left leftToo
      (record.read key source left) (read key source leftToo))
    {items kept : List Node} (each : EditedItems shapes items kept)
    (distinct : ∀ item ∈ items, item.Distinct) (within : ∀ item ∈ items, item.depth ≤ left)
    (withinToo : ∀ item ∈ kept, item.depth ≤ leftToo) (draft : record.Draft) (index : Nat) :
    Same (record.readItems source left draft index keys (.ofList .closed items))
      ((record.withRead read).readItems source leftToo draft index keys (.ofList .closed kept)) := by
  induction keys generalizing shapes items kept draft index with
  | nil =>
    cases each with
    | nil => exact sameSelf _
    | cons head tail =>
      cases source <;> exact sameFailed nofun nofun
  | cons key keys ih =>
    cases each with
    | nil => exact sameOf (closedSame draft index (key :: keys))
    | cons head tail =>
      obtain ⟨distinct, distinctLater⟩ := List.forall_mem_cons.mp distinct
      obtain ⟨within, withinLater⟩ := List.forall_mem_cons.mp within
      obtain ⟨withinToo, withinTooLater⟩ := List.forall_mem_cons.mp withinToo
      have first := alike 0 key rfl head distinct within withinToo
      exact sameBind first fun entry _ =>
        ih (fun i other found => alike (i + 1) other found) tail distinctLater withinLater
          withinTooLater (draft.set key entry) (index + 1)

variable {α : Type} {levels others : Nat}

theorem scalarUnread (record : Record Key) {node : Node} (kind : node.isScalar = true)
    (levels : Nat) (draft : record.Draft) : record.readDraft source levels node ≠ .ok draft := by
  have unfit : record.readDraft source levels node = node.unfit := by
    cases node <;> first | contradiction | cases levels <;> rfl
  rw [unfit]
  exact unfitFails node draft

theorem recordSame (covers : shape.Covers record content)
    (alike : ∀ key left leftToo, left < levels → leftToo < others →
      (content key).Alike left leftToo (record.read key source left) (read key source leftToo))
    (make : record.Draft → Result α) {m n : Node} (edit : Edited shape m n)
    (ordered : ∀ items, m = .array (.ofList .closed items) →
      ∀ i key, record.keys[i]? = some key → (shape.ofArray items).item i = content key)
    (distinct : m.Distinct) (within : m.depth ≤ levels) (withinToo : n.depth ≤ others) :
    Same (record.reader make source levels m) ((record.withRead read).reader make source others n) := by
  refine sameBind ?_ fun draft _ => sameSelf (make draft)
  cases edit with
  | scalar kind =>
    exact sameFailed (scalarUnread record kind _) (scalarUnread (record.withRead read) kind _)
  | array each =>
    obtain ⟨left, rfl, inner⟩ := itemsLeft within
    obtain ⟨leftToo, rfl, innerToo⟩ := itemsLeft withinToo
    refine recordItemsSame record.keys (fun i key found => ?_) each (itemsDistinct distinct) inner
      innerToo record.empty 0
    rw [ordered _ rfl i key found]
    exact alike key left leftToo (Nat.lt_succ_self _) (Nat.lt_succ_self _)
  | object each foreign order =>
    obtain ⟨left, rfl, inner⟩ := membersLeft within
    obtain ⟨leftToo, rfl, innerToo⟩ := membersLeft withinToo
    exact recordMembersSame covers
      (fun key => alike key left leftToo (Nat.lt_succ_self _) (Nat.lt_succ_self _)) each foreign order
      (membersDistinct distinct) inner innerToo

theorem recordAlike (covers : shape.Covers record content)
    (alike : ∀ key left leftToo, (content key).Alike left leftToo (record.read key source left)
      (record.read key source leftToo))
    (ordered : ∀ items i key, record.keys[i]? = some key →
      (shape.ofArray items).item i = content key)
    (make : record.Draft → Result α) (levels others : Nat) :
    shape.Alike levels others (record.reader make source levels) (record.reader make source others) :=
  fun _ _ edit distinct within withinToo =>
    recordSame covers (fun key left leftToo _ _ => alike key left leftToo) make edit
      (fun items _ => ordered items) distinct within withinToo

end QueryTree
