import QueryTree.Json.Record
import QueryTree.Proofs.Json.Readers

/-! Records are read back from the members that are written for their entries. -/
namespace QueryTree.Json
namespace Record

variable {Key : Type} {record : Record Key}

def written (record : Record Key) (encode : (key : Key) → record.Entry key → Json)
    (draft : record.Draft) (keys : List Key) : List (String × Json) :=
  keys.flatMap fun key => Json.optional (record.name key) (encode key) (draft key)

variable {encode : (key : Key) → record.Entry key → Json} {draft : record.Draft}

theorem writtenUnset {key : Key} (keys : List Key) (unset : draft key = none) :
    record.written encode draft (key :: keys) = record.written encode draft keys := by
  simp [written, unset, Json.optional]

theorem writtenSet {key : Key} {entry : record.Entry key} (keys : List Key)
    (set : draft key = some entry) :
    record.written encode draft (key :: keys) =
      (record.name key, encode key entry) :: record.written encode draft keys := by
  simp [written, set, Json.optional]

theorem writtenExact {keys : List Key}
    (reads : ∀ key entry, draft key = some entry →
      Reads (record.read key) (encode key entry) entry) :
    ExactMembers (record.written encode draft keys) := by
  induction keys with
  | nil => trivial
  | cons key keys ih =>
    cases set : draft key with
    | none => rwa [writtenUnset keys set]
    | some entry =>
      rw [writtenSet keys set]
      exact ⟨(reads key entry set).exact, ih⟩

variable [DecidableEq Key]

structure Sound (record : Record Key) : Prop where
  distinct : record.keys.Nodup
  complete : ∀ key, key ∈ record.keys
  named : ∀ key, record.ofName? (record.name key) = some key

@[simp] theorem setSame (draft : record.Draft) (key : Key) (entry : record.Entry key) :
    draft.set key entry key = some entry := by
  simp [Draft.set]

@[simp] theorem setOther (draft : record.Draft) {key other : Key} (entry : record.Entry key)
    (differs : other ≠ key) : draft.set key entry other = draft other := by
  simp [Draft.set, differs]

theorem writtenReadBack {keys : List Key} {start : record.Draft} {members : Members}
    (source : Source) {levels : Nat} (named : ∀ key, record.ofName? (record.name key) = some key)
    (reads : ∀ key entry, draft key = some entry →
      Reads (record.read key) (encode key entry) entry)
    (distinct : keys.Nodup) (fresh : ∀ key ∈ keys, start key = none)
    (held : members.Holds (record.written encode draft keys))
    (within : depthMembers (record.written encode draft keys) ≤ levels) :
    ∃ final, record.readMembers source levels start members = .ok final ∧
      (∀ key ∈ keys, final key = draft key) ∧ ∀ key, key ∉ keys → final key = start key := by
  induction keys generalizing start members with
  | nil =>
    cases held with
    | closed => exact ⟨start, rfl, by simp, fun _ _ => rfl⟩
  | cons key keys ih =>
    obtain ⟨absent, distinct⟩ := List.nodup_cons.mp distinct
    have unread := fresh key List.mem_cons_self
    cases set : draft key with
    | none =>
      rw [writtenUnset keys set] at held within
      have freshLater : ∀ other ∈ keys, start other = none := fun other inside =>
        fresh other (List.mem_cons_of_mem _ inside)
      obtain ⟨final, read, inside, outside⟩ := ih distinct freshLater held within
      refine ⟨final, read, fun other among => ?_, fun other apart => ?_⟩
      · rcases List.mem_cons.mp among with rfl | among
        · rw [outside other absent, unread, set]
        · exact inside other among
      · exact outside other fun among => apart (List.mem_cons_of_mem _ among)
    | some entry =>
      rw [writtenSet keys set] at held within
      obtain ⟨here, others⟩ := Nat.max_le.mp within
      have freshLater : ∀ other ∈ keys, start.set key entry other = none := by
        intro other inside
        rw [setOther start entry (ne_of_mem_of_not_mem inside absent)]
        exact fresh other (List.mem_cons_of_mem _ inside)
      cases held with
      | cons readKey head tail =>
        have value := (reads key entry set).back source head here
        obtain ⟨final, read, inside, outside⟩ := ih distinct freshLater tail others
        refine ⟨final, ?_, fun other among => ?_, fun other apart => ?_⟩
        · simp only [readMembers, ofFaultOk readKey, named, unread, value, bind, Except.bind]
          exact read
        · rcases List.mem_cons.mp among with rfl | among
          · rw [outside other absent, setSame, set]
          · exact inside other among
        · obtain ⟨differs, apart⟩ := not_or.mp fun among => apart (List.mem_cons.mpr among)
          rw [outside other apart, setOther start entry differs]

end Record

variable {Key α : Type} [DecidableEq Key]

theorem readsRecord {record : Record Key} (sound : record.Sound)
    {encode : (key : Key) → record.Entry key → Json} {draft : record.Draft}
    {make : record.Draft → Result α} {a : α}
    (reads : ∀ key entry, draft key = some entry →
      Reads (record.read key) (encode key entry) entry)
    (made : make draft = .ok a) :
    Reads (record.reader make) (.object (record.written encode draft record.keys)) a where
  exact := Record.writtenExact reads
  back source levels node held within := by
    obtain ⟨left, rfl, inner⟩ := levelsLeft within
    cases held with
    | object held =>
      have fresh : ∀ key ∈ record.keys, record.empty key = none := fun _ _ => rfl
      obtain ⟨final, read, inside, _⟩ :=
        Record.writtenReadBack source sound.named reads sound.distinct fresh held inner
      have same : final = draft := funext fun key => inside key (sound.complete key)
      subst same
      simp only [Record.reader, Record.readDraft, read, bind, Except.bind]
      exact made

namespace Tags

variable {Tag : Type} {tags : Tags Tag}

theorem splitApart (tag : Tag) (source : Source) {levels : Nat} {named : List (String × Json)}
    {members : Members} (apart : ∀ member ∈ named, member.1 ≠ tags.name)
    (held : members.Holds named) (within : depthMembers named ≤ levels) :
    tags.split source levels (some tag) members = .ok (some tag, members) := by
  induction named generalizing members with
  | nil =>
    cases held with
    | closed => rfl
  | cons member named ih =>
    have apartLater : ∀ member ∈ named, member.1 ≠ tags.name := fun member inside =>
      apart member (List.mem_cons_of_mem _ inside)
    cases held with
    | @cons rawKey name value json rest named readKey head tail =>
      obtain ⟨here, others⟩ := Nat.max_le.mp within
      have differs : name ≠ tags.name := apart _ List.mem_cons_self
      have whole := holdsCheck json head here
      have later := ih apartLater tail others
      rw [split, ofFaultOk readKey]
      simp only [bind, Except.bind, if_neg differs, ofFaultOk whole, later]
      rfl

end Tags

theorem readsTagged {Tag : Type} {tags : Tags Tag} {read : Tag → Reader α} {tag : Tag}
    {name : String} {members : List (String × Json)} {a : α} (named : tags.ofName? name = some tag)
    (apart : ∀ member ∈ members, member.1 ≠ tags.name)
    (reads : Reads (read tag) (.object members) a) :
    Reads (tags.reader read) (.object ((tags.name, .string name) :: members)) a where
  exact := ⟨trivial, reads.exact⟩
  back source levels node held within := by
    obtain ⟨left, rfl, inner⟩ := levelsLeft within
    have untagged : depthMembers members ≤ left := (Nat.max_le.mp inner).2
    have objectWithin : (Json.object members).depth ≤ left + 1 := by
      rw [depth]
      omega
    cases held with
    | object held =>
      cases held with
      | cons readKey head tail =>
        cases head with
        | @string text _ readName =>
          have others := Tags.splitApart tag source apart tail untagged
          have shape : tags.read source (.text text) = .ok tag := by
            simp only [Tags.read, variantNamed, ofFaultOk readName, bind, Except.bind, named]
          have inside := reads.back .tagged (.object tail) objectWithin
          rw [Tags.reader, Tags.split, ofFaultOk readKey]
          simp only [bind, Except.bind, if_true, shape, others]
          exact inside

end QueryTree.Json
