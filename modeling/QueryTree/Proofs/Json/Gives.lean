import QueryTree.Proofs.Json.Members

/-! What holds of everything that a reader makes, whatever it reads. -/
namespace QueryTree.Json

variable {α : Type}

def Gives (read : Reader α) (p : α → Prop) : Prop :=
  ∀ ⦃source : Source⦄ ⦃levels : Nat⦄ ⦃node : Node⦄ ⦃a : α⦄, read source levels node = .ok a → p a

theorem givesAny (read : Reader α) : Gives read fun _ => True := fun _ _ _ _ _ => trivial

theorem givesOption {read : Reader α} {p : α → Prop} (gives : Gives read p) :
    Gives (readOption read) fun option => ∀ a, option = some a → p a := by
  intro source levels node option done a same
  cases node with
  | null => cases done; contradiction
  | _ =>
    obtain ⟨b, made, held⟩ := mapOk.mp done
    cases held.trans same
    exact gives made

theorem readItemsGive {read : Node → Result α} {p : α → Prop}
    (gives : ∀ node a, read node = .ok a → p a) :
    (items : Items) → {made : List α} → readItems read items = .ok made → ∀ a ∈ made, p a
  | .closed, _, done => by cases done; simp
  | .broken _, _, done => by contradiction
  | .cons item rest, _, done => by
    obtain ⟨first, here, done⟩ := bindOk done
    obtain ⟨others, later, made⟩ := bindOk done
    cases made
    exact List.forall_mem_cons.mpr ⟨gives item first here, readItemsGive gives rest later⟩

theorem givesList {read : Reader α} {p : α → Prop} (gives : Gives read p) :
    Gives (readList read) fun made => ∀ a ∈ made, p a := by
  intro source levels node made done
  cases node with
  | array items =>
    cases levels with
    | zero => contradiction
    | succ levels => exact readItemsGive (fun _ _ here => gives here) items done
  | _ => simp [readList] at done

section Record

variable {Key : Type} {record : Record Key} {p : (key : Key) → record.Entry key → Prop}

def Record.Draft.Each (p : (key : Key) → record.Entry key → Prop) (draft : record.Draft) : Prop :=
  ∀ key entry, draft key = some entry → p key entry

variable [DecidableEq Key]

theorem eachSet {draft : record.Draft} {key : Key} {entry : record.Entry key} (each : draft.Each p)
    (here : p key entry) : (draft.set key entry).Each p := by
  intro other held set
  by_cases same : other = key
  · subst same
    rw [Record.setSame] at set
    cases set
    exact here
  · rw [Record.setOther draft entry same] at set
    exact each other held set

theorem readMembersGive (gives : ∀ key, Gives (record.read key) (p key)) {source : Source}
    {levels : Nat} : (members : Members) → {draft made : record.Draft} →
    record.readMembers source levels draft members = .ok made → draft.Each p → made.Each p
  | .closed, _, _, done, each => by cases done; exact each
  | .broken _, _, _, done, _ | .misplaced _, _, _, done, _ => by contradiction
  | .cons key value rest, draft, made, done, each => by
    obtain ⟨name, _, done⟩ := bindOk done
    split at done
    · split at done
      · contradiction
      · obtain ⟨_, _, done⟩ := bindOk done
        exact readMembersGive gives rest done each
    · split at done
      · contradiction
      · obtain ⟨entry, here, done⟩ := bindOk done
        exact readMembersGive gives rest done (eachSet each (gives _ here))

theorem readItemsEach (gives : ∀ key, Gives (record.read key) (p key)) {source : Source}
    {levels : Nat} (keys : List Key) {items : Items} {index : Nat} {draft made : record.Draft}
    (done : record.readItems source levels draft index keys items = .ok made)
    (each : draft.Each p) : made.Each p := by
  induction keys generalizing items index draft with
  | nil =>
    cases items with
    | closed => cases done; exact each
    | broken => contradiction
    | cons => cases source <;> contradiction
  | cons key keys ih =>
    cases items with
    | closed =>
      rw [Record.readItems] at done
      split at done
      · exact ih done each
      · contradiction
    | broken => contradiction
    | cons item rest =>
      obtain ⟨entry, here, done⟩ := bindOk done
      exact ih done (eachSet each (gives key here))

theorem givesRecord {make : record.Draft → Result α} {q : α → Prop}
    (gives : ∀ key, Gives (record.read key) (p key))
    (makes : ∀ draft a, draft.Each p → make draft = .ok a → q a) : Gives (record.reader make) q := by
  intro source levels node a done
  obtain ⟨draft, read, made⟩ := bindOk done
  have none : record.empty.Each p := nofun
  refine makes draft a ?_ made
  cases node with
  | object members =>
    cases levels with
    | zero => contradiction
    | succ levels => exact readMembersGive gives members read none
  | array items =>
    cases levels with
    | zero => contradiction
    | succ levels => exact readItemsEach gives record.keys read none
  | _ => simp [Record.readDraft] at read

end Record

end QueryTree.Json
