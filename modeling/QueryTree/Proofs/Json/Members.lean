import Mathlib.Data.List.Forall2
import QueryTree.Proofs.Json.Records

/-! What a record takes from an object: for each key the only value under its names, wherever that
stands. Members of other names do not count. -/
namespace QueryTree.Json

def valuesWhere (p : String → Bool) (named : List (String × Json)) : List Json :=
  (named.filter fun member => p member.1).map Prod.snd

def valuesOf (name : String) (named : List (String × Json)) : List Json :=
  valuesWhere (fun other => other == name) named

def Members.valuesWhere (p : String → Bool) : Members → List Node
  | .cons key value rest =>
    match key.read with
    | .ok name => if p name then value :: rest.valuesWhere p else rest.valuesWhere p
    | .error _ => rest.valuesWhere p
  | _ => []

def Members.keep (p : String → Bool) : Members → Members
  | .cons key value rest =>
    match key.read with
    | .ok name => if p name then .cons key value (rest.keep p) else rest.keep p
    | .error _ => .cons key value (rest.keep p)
  | closing => closing

theorem valuesWhereHold {p : String → Bool} {named : List (String × Json)} {members : Members}
    (held : members.Holds named) :
    List.Forall₂ Node.Holds (members.valuesWhere p) (valuesWhere p named) := by
  induction named generalizing members with
  | nil =>
    cases held with
    | closed => exact .nil
  | cons member named ih =>
    cases held with
    | cons readKey head tail =>
      simp only [Members.valuesWhere, valuesWhere, readKey, List.filter_cons]
      split
      · exact .cons head (ih tail)
      · exact ih tail

theorem memberDepth {named : List (String × Json)} {member : String × Json}
    (inside : member ∈ named) : member.2.depth ≤ depthMembers named := by
  induction named with
  | nil => contradiction
  | cons first named ih =>
    rw [depthMembers]
    rcases List.mem_cons.mp inside with rfl | inside
    · exact Nat.le_max_left _ _
    · exact Nat.le_trans (ih inside) (Nat.le_max_right _ _)

theorem valuesWhereDepth {p : String → Bool} {named : List (String × Json)} {json : Json}
    (inside : json ∈ valuesWhere p named) : json.depth ≤ depthMembers named := by
  obtain ⟨member, among, rfl⟩ := List.mem_map.mp inside
  exact memberDepth (List.mem_filter.mp among).1

theorem valuesWhereNone {p : String → Bool} {named : List (String × Json)}
    (apart : ∀ member ∈ named, p member.1 = false) : valuesWhere p named = [] := by
  have none : named.filter (fun member => p member.1) = [] := by
    simpa [List.filter_eq_nil_iff] using apart
  rw [valuesWhere, none, List.map_nil]

def Decides {α : Type} (read : Node → Result α) (levels : Nat) (means : Json → α → Prop) : Prop :=
  ∀ {node : Node} {json : Json}, node.Holds json → json.depth ≤ levels →
    ∀ a, read node = .ok a ↔ means json a

variable {α β : Type}

@[simp] theorem unfitFails (node : Node) (a : α) : node.unfit ≠ .ok a := by
  intro done
  obtain ⟨found, _, done⟩ := bindOk done
  contradiction

@[simp] theorem mapOk {x : Result α} {f : α → β} {b : β} :
    f <$> x = .ok b ↔ ∃ a, x = .ok a ∧ f a = b := by
  cases x <;> simp [Functor.map, Except.map]

theorem decidesString (source : Source) (levels : Nat) :
    Decides (readString source levels) levels fun json s => json = .string s := by
  intro node json held _ s
  cases held with
  | string read => simp [readString, ofFaultOk read]
  | _ => simp [readString]

theorem decidesOption {read : Reader α} {source : Source} {levels : Nat} {means : Json → α → Prop}
    (decides : Decides (read source levels) levels means) :
    Decides (readOption read source levels) levels fun json entry =>
      json = .null ∧ entry = none ∨ json ≠ .null ∧ ∃ a, means json a ∧ entry = some a := by
  intro node json held within entry
  have inside := decides held within
  cases held with
  | null => simp [readOption, eq_comm]
  | _ =>
    simp only [readOption, mapOk, inside]
    simp [eq_comm]

inductive Taken (reads : β → α → Prop) : Option α → List β → Option α → Prop where
  | before (a? : Option α) : Taken reads a? [] a?
  | single {b : β} {a : α} (done : reads b a) : Taken reads none [b] (some a)

theorem takenNone {reads : β → α → Prop} {a? b? : Option α} :
    Taken reads a? [] b? ↔ b? = a? := by
  constructor
  · intro taken
    cases taken
    rfl
  · rintro rfl
    exact .before _

theorem takenSome {reads : β → α → Prop} {a : α} {values : List β} {b? : Option α} :
    Taken reads (some a) values b? ↔ values = [] ∧ b? = some a := by
  constructor
  · intro taken
    cases taken
    exact ⟨rfl, rfl⟩
  · rintro ⟨rfl, rfl⟩
    exact .before _

theorem takenCons {reads : β → α → Prop} {a? b? : Option α} {value : β} {values : List β} :
    Taken reads a? (value :: values) b? ↔
      a? = none ∧ ∃ a, reads value a ∧ Taken reads (some a) values b? := by
  constructor
  · intro taken
    cases taken with
    | single done => exact ⟨rfl, _, done, .before _⟩
  · rintro ⟨rfl, a, done, taken⟩
    obtain ⟨rfl, rfl⟩ := takenSome.mp taken
    exact .single done

theorem takenEntry {reads : β → α → Prop} {values : List β} {a : α} :
    Taken reads none values (some a) ↔ ∃ b, values = [b] ∧ reads b a := by
  constructor
  · intro taken
    cases taken with
    | single done => exact ⟨_, rfl, done⟩
  · rintro ⟨b, rfl, done⟩
    exact .single done

theorem takenDefault {reads : β → α → Prop} {values : List β} {other a : α} :
    (∃ a?, Taken reads none values a? ∧ a?.getD other = a) ↔
      values = [] ∧ a = other ∨ ∃ b, values = [b] ∧ reads b a := by
  constructor
  · rintro ⟨a?, taken, rfl⟩
    cases taken with
    | before => exact .inl ⟨rfl, rfl⟩
    | single done => exact .inr ⟨_, rfl, done⟩
  · rintro (⟨rfl, rfl⟩ | ⟨b, rfl, done⟩)
    · exact ⟨none, .before none, rfl⟩
    · exact ⟨some a, .single done, rfl⟩

theorem takenHeld {reads : Node → α → Prop} {means : Json → α → Prop} {nodes : List Node}
    {jsons : List Json} {a? b? : Option α} (held : List.Forall₂ Node.Holds nodes jsons)
    (same : ∀ json ∈ jsons, ∀ node : Node, node.Holds json → ∀ a, reads node a ↔ means json a) :
    Taken reads a? nodes b? ↔ Taken means a? jsons b? := by
  cases held with
  | nil => rw [takenNone, takenNone]
  | @cons node json nodes jsons head tail =>
    have first := same json List.mem_cons_self node head
    have alone : nodes = [] ↔ jsons = [] := by cases tail <;> simp
    simp only [takenCons, takenSome, first, alone]

namespace Record

variable {Key : Type} {record : Record Key}

theorem knownName (plain : ∀ key, record.aliases key = []) (name : String) :
    (record.ofName? name).isSome = (record.keys.map record.name).contains name := by
  rw [ofName?, Bool.eq_iff_iff, List.find?_isSome]
  simp [plain]

variable [DecidableEq Key]

def leads (record : Record Key) (key : Key) (name : String) : Bool := record.ofName? name == some key

theorem leadsName (sound : record.Sound) (plain : ∀ key, record.aliases key = []) (key : Key) :
    record.leads key = fun name => name == record.name key := by
  funext name
  rw [leads, Bool.eq_iff_iff, beq_iff_eq, beq_iff_eq]
  constructor
  · intro found
    have same := List.find?_some found
    simp only [plain, List.contains_nil, Bool.or_false, beq_iff_eq] at same
    exact same.symm
  · rintro rfl
    exact sound.named key

theorem readMembersKept (lax : record.exact = false) {named : List (String × Json)}
    {members : Members} (held : members.Holds named) (source : Source) (levels : Nat)
    (start : record.Draft) :
    record.readMembers source levels start
        (members.keep fun name => (record.ofName? name).isSome) =
      record.readMembers source levels start members := by
  induction named generalizing members start with
  | nil =>
    cases held with
    | closed => rfl
  | cons member named ih =>
    cases held with
    | @cons key name value json rest named readKey head tail =>
      have later := ih tail
      cases found : record.ofName? name with
      | none =>
        have skipped := ofFaultOk (holdsSkip json head)
        rw [readMembers, ofFaultOk readKey]
        simp only [Members.keep, readKey, found, lax, skipped, bind, Except.bind, later,
          Option.isSome_none, Bool.false_eq_true, if_false]
      | some k =>
        simp only [Members.keep, readKey, found, Option.isSome_some, if_true]
        rw [readMembers, readMembers, ofFaultOk readKey]
        simp only [found, bind, Except.bind, later]

theorem takenMember {reads : (key : Key) → Node → record.Entry key → Prop}
    {start final : record.Draft} {k : Key} {value : Node} {values : Key → List Node} :
    (∀ key, Taken (reads key) (start key) (if k = key then value :: values key else values key)
      (final key)) ↔
    start k = none ∧ ∃ entry, reads k value entry ∧
      ∀ key, Taken (reads key) (start.set k entry key) (values key) (final key) := by
  constructor
  · intro taken
    -- The first value sets the entry, and an entry that is set takes no other.
    have here := taken k
    rw [if_pos rfl, takenCons] at here
    obtain ⟨unset, entry, read, here⟩ := here
    refine ⟨unset, entry, read, fun key => ?_⟩
    by_cases same : key = k
    · subst same
      rwa [setSame]
    · have other := taken key
      rwa [if_neg (Ne.symm same), ← setOther start entry same] at other
  · rintro ⟨unset, entry, read, taken⟩ key
    have here := taken key
    by_cases same : key = k
    · subst same
      rw [setSame] at here
      rw [if_pos rfl, takenCons]
      exact ⟨unset, entry, read, here⟩
    · rwa [if_neg (Ne.symm same), ← setOther start entry same]

theorem readMembersTaken (lax : record.exact = false) {named : List (String × Json)}
    {members : Members} (held : members.Holds named) (source : Source) (levels : Nat)
    (start final : record.Draft) :
    record.readMembers source levels start members = .ok final ↔
      ∀ key, Taken (fun node entry => record.read key source levels node = .ok entry) (start key)
        (members.valuesWhere (record.leads key)) (final key) := by
  induction named generalizing members start with
  | nil =>
    cases held with
    | closed =>
      simp only [readMembers, Members.valuesWhere, takenNone, Except.ok.injEq]
      exact ⟨fun same key => congrFun same.symm key, fun same => funext fun key => (same key).symm⟩
  | cons member named ih =>
    cases held with
    | @cons key name value json rest named readKey head tail =>
      have later := ih tail
      rw [readMembers, ofFaultOk readKey]
      cases found : record.ofName? name with
      | none =>
        have skipped := ofFaultOk (holdsSkip json head)
        simp only [found, lax, skipped, bind, Except.bind, later, Bool.false_eq_true, if_false]
        simp [Members.valuesWhere, readKey, leads, found]
      | some k =>
        have values : ∀ other, (Members.cons key value rest).valuesWhere (record.leads other) =
            if k = other then value :: rest.valuesWhere (record.leads other)
            else rest.valuesWhere (record.leads other) := fun other => by
          simp [Members.valuesWhere, readKey, leads, found]
        simp only [values, takenMember]
        simp only [found, bind, Except.bind]
        cases unset : start k with
        | some entry => simp
        | none =>
          simp only [Option.isSome_none, Bool.false_eq_true, if_false, true_and, ← later]
          exact bindOkIff

theorem readDraftApart (lax : record.exact = false) {key : Key} {named : List (String × Json)}
    {node : Node} {draft : record.Draft} {source : Source} {levels : Nat}
    (apart : ∀ member ∈ named, record.leads key member.1 = false)
    (held : node.Holds (.object named)) (read : record.readDraft source levels node = .ok draft) :
    draft key = none := by
  cases held with
  | @object members _ held =>
    cases levels with
    | zero => contradiction
    | succ levels =>
      have taken := (readMembersTaken lax held source levels record.empty draft).mp read key
      have values := valuesWhereHold (p := record.leads key) held
      rw [valuesWhereNone apart] at values
      rw [List.forall₂_nil_right_iff.mp values] at taken
      exact takenNone.mp taken

theorem readDraftTaken {means : (key : Key) → Json → record.Entry key → Prop} {source : Source}
    {levels : Nat} (lax : record.exact = false)
    (decides : ∀ key, Decides (record.read key source levels) levels (means key))
    {named : List (String × Json)} {members : Members} (held : members.Holds named)
    (within : depthMembers named ≤ levels) (draft : record.Draft) :
    record.readDraft source (levels + 1) (.object members) = .ok draft ↔
      ∀ key, Taken (means key) none (valuesWhere (record.leads key) named) (draft key) := by
  refine (readMembersTaken lax held source levels record.empty draft).trans (forall_congr' fun key => ?_)
  exact takenHeld (valuesWhereHold held) fun json inside node held =>
    decides key held (Nat.le_trans (valuesWhereDepth inside) within)

theorem readerTaken {means : (key : Key) → Json → record.Entry key → Prop} {source : Source}
    {levels : Nat} (lax : record.exact = false)
    (decides : ∀ key, Decides (record.read key source levels) levels (means key))
    {make : record.Draft → Result α} {a : α} {fits : (key : Key) → Option (record.Entry key) → Prop}
    (made : ∀ draft, make draft = .ok a ↔ ∀ key, fits key (draft key))
    {named : List (String × Json)} {members : Members} (held : members.Holds named)
    (within : depthMembers named ≤ levels) :
    record.reader make source (levels + 1) (.object members) = .ok a ↔
      ∀ key, ∃ entry?, Taken (means key) none (valuesWhere (record.leads key) named) entry? ∧
        fits key entry? := by
  rw [reader, bindOkIff]
  simp only [readDraftTaken lax decides held within, made, ← forall_and]
  constructor
  · rintro ⟨draft, each⟩ key
    exact ⟨draft key, each key⟩
  · intro each
    exact ⟨fun key => (each key).choose, fun key => (each key).choose_spec⟩

end Record
end QueryTree.Json
