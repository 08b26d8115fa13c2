import QueryTree.Proofs.Json.Picked

/-! A place in an object or an array, with all else there fixed. What a reader makes of it is made of
what it reads in the place, or it fails whatever stands there. -/
namespace QueryTree.Json

inductive Hole where
  | member (before : List (RawText × Node)) (key : RawText) (rest : Members)
  | item (before : List Node) (rest : Items)

def Hole.fill : Hole → Node → Node
  | .member before key rest, value => .object (.ofList (.cons key value rest) before)
  | .item before rest, value => .array (.ofList (.cons value rest) before)

theorem fillDepth (hole : Hole) {value other : Node} (same : value.depth = other.depth) :
    (hole.fill value).depth = (hole.fill other).depth := by
  cases hole with
  | member before key rest =>
    refine congrArg (1 + ·) ?_
    induction before with
    | nil => exact congrArg (max · rest.depth) same
    | cons member before ih => exact congrArg (max member.2.depth ·) ih
  | item before rest =>
    refine congrArg (1 + ·) ?_
    induction before with
    | nil => exact congrArg (max · rest.depth) same
    | cons item before ih => exact congrArg (max item.depth ·) ih

theorem fillDeep (hole : Hole) (value : Node) : ∃ levels, (hole.fill value).depth = levels + 1 := by
  cases hole <;> exact ⟨_, Nat.add_comm 1 _⟩

theorem itemsBeforeReadable (tail : Items) (before : List Node) :
    (Items.ofList tail before).Everywhere Node.Readable ↔
      (∀ item ∈ before, item.Everywhere Node.Readable) ∧ tail.Everywhere Node.Readable := by
  induction before with
  | nil => simp
  | cons item before ih => rw [Items.ofList, Items.Everywhere, ih, List.forall_mem_cons, and_assoc]

theorem membersBeforeReadable (tail : Members) (before : List (RawText × Node)) :
    (Members.ofList tail before).Everywhere Node.Readable ↔
      (∀ member ∈ before, member.2.Everywhere Node.Readable) ∧ tail.Everywhere Node.Readable := by
  induction before with
  | nil => simp
  | cons member before ih =>
    rw [Members.ofList, Members.Everywhere, ih, List.forall_mem_cons, and_assoc]

theorem membersBeforeKeys (tail : Members) (before : List (RawText × Node)) :
    (Members.ofList tail before).keys = before.map Prod.fst ++ tail.keys := by
  induction before with
  | nil => rfl
  | cons member before ih => rw [Members.ofList, Members.keys, ih, List.map_cons, List.cons_append]

theorem fillReadable (hole : Hole) : ∃ others : Prop, ∀ value,
    (hole.fill value).Everywhere Node.Readable ↔ others ∧ value.Everywhere Node.Readable := by
  cases hole with
  | member before key rest =>
    refine ⟨(∀ name ∈ before.map Prod.fst ++ key :: rest.keys, ∃ s, name.read = .ok s) ∧
      (∀ member ∈ before, member.2.Everywhere Node.Readable) ∧ rest.Everywhere Node.Readable,
      fun value => ?_⟩
    have keys : Node.Readable (.object (.ofList (.cons key value rest) before)) ↔
        ∀ name ∈ before.map Prod.fst ++ key :: rest.keys, ∃ s, name.read = .ok s := by
      rw [Node.Readable, Node.Sound, membersBeforeKeys, Members.keys]
    rw [Hole.fill, Node.Everywhere, keys, membersBeforeReadable, Members.Everywhere]
    tauto
  | item before rest =>
    refine ⟨(∀ item ∈ before, item.Everywhere Node.Readable) ∧ rest.Everywhere Node.Readable,
      fun value => ?_⟩
    rw [Hole.fill, Node.Everywhere, itemsBeforeReadable, Items.Everywhere,
      and_iff_right (show Node.Readable (.array _) from trivial)]
    tauto

theorem fillInside (hole : Hole) (value : Node) : value.depth < (hole.fill value).depth := by
  cases hole with
  | member before key rest =>
    have inside : value.depth ≤ (Members.ofList (.cons key value rest) before).depth := by
      induction before with
      | nil => exact Nat.le_max_left ..
      | cons member before ih => exact Nat.le_trans ih (Nat.le_max_right ..)
    rw [Hole.fill, Node.depth]
    omega
  | item before rest =>
    have inside : value.depth ≤ (Items.ofList (.cons value rest) before).depth := by
      induction before with
      | nil => exact Nat.le_max_left ..
      | cons item before ih => exact Nat.le_trans ih (Nat.le_max_right ..)
    rw [Hole.fill, Node.depth]
    omega

theorem fillCheck {hole : Hole} {value : Node} {levels : Nat}
    (whole : (hole.fill value).check (levels + 1) = .ok ()) : value.check levels = .ok () := by
  obtain ⟨others, readable⟩ := fillReadable hole
  have inside := fillInside hole value
  rw [checkExact, readable] at whole
  rw [checkExact]
  exact ⟨whole.1.2, by omega⟩

theorem checkSkip {node : Node} {levels : Nat} (whole : node.check levels = .ok ()) :
    node.skip = .ok () :=
  (skipExact node).mpr (everywhereImp (soundImp (fun _ ⟨_, read⟩ => readSkip read) fun _ _ => trivial) node
    ((checkExact node levels).mp whole).1)

variable {α β γ δ ε : Type}

def Blocked (read : Node → Result α) : Prop := ∀ value a, read value ≠ .ok a

def Through (read : Node → Result α) (inner : Node → Result β) (put : β → α) : Prop :=
  ∀ value a, read value = .ok a ↔ ∃ b, inner value = .ok b ∧ a = put b

def Reaches (read : Node → Result α) (inner : Node → Result β) (put : γ → β → α) : Prop :=
  Blocked read ∨ ∃ c, Through read inner (put c)

theorem blockedBy {read : Node → Result α} (fails : ∀ value, ∃ refusal, read value = .error refusal) :
    Blocked read := by
  intro value a done
  obtain ⟨refusal, failed⟩ := fails value
  cases failed.symm.trans done

theorem throughOf {read : Node → Result α} {inner : Node → Result β} {put : β → α}
    (same : ∀ value, read value = inner value >>= fun b => .ok (put b)) : Through read inner put := by
  intro value a
  rw [same, bindOkIff]
  refine exists_congr fun b => and_congr_right' ?_
  rw [Except.ok.injEq, eq_comm]

theorem reachesInto {read : Node → Result α} {inner : Node → Result β} {put : γ → β → α}
    (place : Node → Node) (reaches : Reaches read inner put) :
    Reaches (fun value => read (place value)) (fun value => inner (place value)) put :=
  reaches.imp (fun blocked value => blocked (place value)) fun ⟨c, through⟩ =>
    ⟨c, fun value => through (place value)⟩

theorem reachesAs {read : Node → Result α} {inner : Node → Result β} {put : γ → β → α}
    {putToo : δ → β → α} (reaches : Reaches read inner put) (same : ∀ c, ∃ d, putToo d = put c) :
    Reaches read inner putToo := by
  refine reaches.imp_right fun ⟨c, through⟩ => ?_
  obtain ⟨d, equal⟩ := same c
  exact ⟨d, equal ▸ through⟩

theorem reachesThen {read : Node → Result α} {inner : Node → Result β} {innermost : Node → Result ε}
    {put : γ → β → α} {putToo : δ → ε → β} (reaches : Reaches read inner put)
    (further : Reaches inner innermost putToo) :
    Reaches read innermost fun (c : γ × δ) e => put c.1 (putToo c.2 e) := by
  rcases reaches with blocked | ⟨c, through⟩
  · exact .inl blocked
  rcases further with blocked | ⟨d, deeper⟩
  · refine .inl fun value a done => ?_
    obtain ⟨b, found, _⟩ := (through value a).mp done
    exact blocked value b found
  · refine .inr ⟨(c, d), fun value a => ?_⟩
    rw [through]
    constructor
    · rintro ⟨b, found, rfl⟩
      obtain ⟨e, foundToo, rfl⟩ := (deeper value b).mp found
      exact ⟨e, foundToo, rfl⟩
    · rintro ⟨e, found, rfl⟩
      exact ⟨putToo d e, (deeper value _).mpr ⟨e, found, rfl⟩, rfl⟩

theorem reachesMade {read : Node → Result α} {inner : Node → Result β} {put : γ → β → α}
    {make : α → Result δ} {putToo : ε → β → δ} (reaches : Reaches read inner put)
    (made : ∀ c, (∀ b d, make (put c b) ≠ .ok d) ∨ ∃ e, ∀ b, make (put c b) = .ok (putToo e b)) :
    Reaches (fun value => read value >>= make) inner putToo := by
  rcases reaches with blocked | ⟨c, through⟩
  · refine .inl fun value d done => ?_
    obtain ⟨a, found, _⟩ := bindOk done
    exact blocked value a found
  refine (made c).imp (fun fails value d done => ?_) fun ⟨e, gives⟩ => ⟨e, fun value d => ?_⟩
  · obtain ⟨a, found, rest⟩ := bindOk done
    obtain ⟨b, _, rfl⟩ := (through value a).mp found
    exact fails b d rest
  · rw [bindOkIff]
    constructor
    · rintro ⟨a, found, rest⟩
      obtain ⟨b, foundToo, rfl⟩ := (through value a).mp found
      rw [gives, Except.ok.injEq] at rest
      exact ⟨b, foundToo, rest.symm⟩
    · rintro ⟨b, found, rfl⟩
      exact ⟨put c b, (through value _).mpr ⟨b, found, rfl⟩, gives b⟩

abbrev Beside (α : Type) (count : Nat) := {front : List α // front.length = count} × List α

def Beside.around {count : Nat} (beside : Beside α count) (a : α) : List α := beside.1 ++ a :: beside.2

theorem itemsAround (read : Node → Result α) (rest : Items) (before : List Node) :
    Reaches (fun value => readItems read (.ofList (.cons value rest) before)) read
      (Beside.around : Beside α before.length → α → List α) := by
  induction before with
  | nil =>
    simp only [Items.ofList, readItems]
    cases readItems read rest with
    | error refusal =>
      refine .inl fun value a done => ?_
      obtain ⟨_, _, failed⟩ := bindOk done
      contradiction
    | ok behind => exact .inr ⟨(⟨[], rfl⟩, behind), throughOf fun value => rfl⟩
  | cons item before ih =>
    simp only [Items.ofList, readItems]
    cases read item with
    | error refusal => exact .inl (blockedBy fun _ => ⟨refusal, rfl⟩)
    | ok first =>
      refine reachesMade ih fun others => .inr ?_
      obtain ⟨⟨front, length⟩, behind⟩ := others
      exact ⟨(⟨first :: front, congrArg Nat.succ length⟩, behind), fun a => rfl⟩

theorem listAround (read : Reader α) (source : Source) (levels : Nat) (before : List Node) (rest : Items) :
    Reaches (fun value => readList read source levels ((Hole.item before rest).fill value))
      (read source (levels - 1)) (Beside.around : Beside α before.length → α → List α) := by
  cases levels with
  | zero => exact .inl nofun
  | succ left => exact itemsAround (read source left) rest before

namespace Record

variable {Key : Type} {record : Record Key}

theorem keyOfNamed {name : RawText} {key? : Option Key} (named : record.keyOf name = .ok key?) :
    ∃ text, name.read = .ok text ∧ record.ofName? text = key? := by
  unfold keyOf at named
  cases spelled : name.read with
  | error fault => rw [spelled] at named; contradiction
  | ok text =>
    rw [spelled] at named
    exact ⟨text, rfl, Except.ok.inj named⟩

variable [DecidableEq Key]

def At (record : Record Key) (key : Key) : Hole → Prop
  | .member _ name _ => record.keyOf name = .ok (some key)
  | .item before _ => record.keys[before.length]? = some key

theorem setSwapped (draft : record.Draft) {key other : Key} (apart : other ≠ key)
    (entry : record.Entry key) (otherEntry : record.Entry other) :
    (draft.set key entry).set other otherEntry = (draft.set other otherEntry).set key entry := by
  funext k
  by_cases same : k = key
  · subst same
    rw [setSame, setOther _ _ apart.symm, setSame]
  · by_cases sameOther : k = other
    · subst sameOther
      rw [setOther _ _ same, setSame, setSame]
    · rw [setOther _ _ same, setOther _ _ sameOther, setOther _ _ sameOther, setOther _ _ same]

variable {key : Key} {source : Source} {levels : Nat}

def Indifferent (key : Key) (read : record.Draft → Result record.Draft) (draft : record.Draft) : Prop :=
  (∀ entry, ∃ refusal, read (draft.set key entry) = .error refusal) ∨
    ∃ final : record.Draft, ∀ entry, read (draft.set key entry) = .ok (final.set key entry)

theorem membersBehind : (rest : Members) → (draft : record.Draft) →
    Indifferent key (fun start => record.readMembers source levels start rest) draft
  | .closed, draft => .inr ⟨draft, fun _ => rfl⟩
  | .broken _, _ => .inl fun _ => ⟨_, rfl⟩
  | .misplaced _, _ => .inl fun _ => ⟨_, rfl⟩
  | .cons name value rest, draft => by
    unfold Indifferent
    simp only [readMembers]
    cases ofFault name.read with
    | error refusal => exact .inl fun _ => ⟨refusal, rfl⟩
    | ok text =>
      simp only [bind, Except.bind]
      cases record.ofName? text with
      | none =>
        simp only
        split
        · exact .inl fun _ => ⟨_, rfl⟩
        · cases ofFault value.skip with
          | error refusal => exact .inl fun _ => ⟨refusal, rfl⟩
          | ok u => exact membersBehind rest draft
      | some other =>
        by_cases same : other = key
        · subst same
          exact .inl fun _ => ⟨.mismatch (.duplicateField (record.name other)), by simp⟩
        · simp only [setOther _ _ same]
          split
          · exact .inl fun _ => ⟨_, rfl⟩
          · cases record.read other source levels value with
            | error refusal => exact .inl fun _ => ⟨refusal, rfl⟩
            | ok read =>
              simp only [setSwapped draft same]
              exact membersBehind rest (draft.set other read)

theorem itemsBehind : (keys : List Key) → key ∉ keys → (rest : Items) → (index : Nat) →
    (draft : record.Draft) →
    Indifferent key (fun start => record.readItems source levels start index keys rest) draft
  | [], _, .closed, _, draft => .inr ⟨draft, fun _ => by simp only [readItems]⟩
  | [], _, .cons _ _, _, _ => by
    refine .inl fun _ => ?_
    simp only [readItems]
    split <;> exact ⟨_, rfl⟩
  | keys, _, .broken fault, _, _ =>
    .inl fun _ => ⟨.fault fault, by cases keys <;> simp only [readItems]⟩
  | other :: keys, apart, .closed, index, draft => by
    unfold Indifferent
    simp only [readItems]
    split
    · exact itemsBehind keys (fun inside => apart (.tail _ inside)) .closed (index + 1) draft
    · exact .inl fun _ => ⟨_, rfl⟩
  | other :: keys, apart, .cons item rest, index, draft => by
    have differs : other ≠ key := fun same => apart (same ▸ .head _)
    unfold Indifferent
    simp only [readItems]
    cases record.read other source levels item with
    | error refusal => exact .inl fun _ => ⟨refusal, rfl⟩
    | ok read =>
      simp only [bind, Except.bind, setSwapped draft differs]
      exact itemsBehind keys (fun inside => apart (.tail _ inside)) rest (index + 1)
        (draft.set other read)

theorem indifferentThrough {read : Node → Result record.Draft} {behind : record.Draft → Result record.Draft}
    {draft : record.Draft} (indifferent : Indifferent key behind draft)
    (same : ∀ value, read value =
      record.read key source levels value >>= fun entry => behind (draft.set key entry)) :
    Reaches read (record.read key source levels) fun final : record.Draft => final.set key := by
  rcases indifferent with fails | ⟨final, gives⟩
  · refine .inl fun value made done => ?_
    rw [same, bindOkIff] at done
    obtain ⟨entry, _, later⟩ := done
    obtain ⟨refusal, failed⟩ := fails entry
    cases failed.symm.trans later
  · exact .inr ⟨final, throughOf fun value => by simp only [same, gives]⟩

theorem membersBefore {inner : Node → Result β} {put : record.Draft → β → record.Draft}
    {tail : Node → Members}
    (reaches : ∀ draft : record.Draft,
      Reaches (fun value => record.readMembers source levels draft (tail value)) inner put)
    (before : List (RawText × Node)) (draft : record.Draft) :
    Reaches (fun value => record.readMembers source levels draft (.ofList (tail value) before))
      inner put := by
  induction before generalizing draft with
  | nil => exact reaches draft
  | cons member before ih =>
    obtain ⟨other, held⟩ := member
    simp only [Members.ofList, readMembers]
    -- What fails in front of the place fails whatever stands in it.
    cases ofFault other.read with
    | error refusal => exact .inl (blockedBy fun _ => ⟨refusal, rfl⟩)
    | ok text =>
      simp only [bind, Except.bind]
      cases record.ofName? text with
      | none =>
        simp only
        split
        · exact .inl (blockedBy fun _ => ⟨_, rfl⟩)
        · cases ofFault held.skip with
          | error refusal => exact .inl (blockedBy fun _ => ⟨refusal, rfl⟩)
          | ok u => exact ih draft
      | some k =>
        simp only
        split
        · exact .inl (blockedBy fun _ => ⟨_, rfl⟩)
        · cases record.read k source levels held with
          | error refusal => exact .inl (blockedBy fun _ => ⟨refusal, rfl⟩)
          | ok read => exact ih (draft.set k read)

theorem membersThrough {name : RawText} (named : record.keyOf name = .ok (some key)) (rest : Members)
    (before : List (RawText × Node)) (draft : record.Draft) :
    Reaches
      (fun value => record.readMembers source levels draft (.ofList (.cons name value rest) before))
      (record.read key source levels) fun final : record.Draft => final.set key := by
  refine membersBefore (fun start => ?_) before draft
  obtain ⟨text, spelled, found⟩ := keyOfNamed named
  cases unset : start key with
  | some entry =>
    refine .inl (blockedBy fun value => ⟨.mismatch (.duplicateField (record.name key)), ?_⟩)
    simp [readMembers, spelled, ofFault, found, unset, bind, Except.bind]
  | none =>
    have behind : Indifferent key (fun start => record.readMembers source levels start rest) start :=
      membersBehind rest start
    refine indifferentThrough behind fun value => ?_
    simp [readMembers, spelled, ofFault, found, unset, bind, Except.bind]

theorem foreignThrough (lax : record.exact = false) {name : RawText}
    (foreign : record.keyOf name = .ok none) (before : List (RawText × Node)) (rest : Members)
    (source : Source) (levels : Nat) :
    Reaches (fun value => record.readDraft source levels ((Hole.member before name rest).fill value))
      (fun value => ofFault value.skip) fun (final : record.Draft) _ => final := by
  cases levels with
  | zero => exact .inl (blockedBy fun value => ⟨.fault .malformed, rfl⟩)
  | succ levels =>
    refine membersBefore (fun start => ?_) before record.empty
    obtain ⟨text, spelled, unknown⟩ := keyOfNamed foreign
    have read (value : Node) : record.readMembers source levels start (.cons name value rest) =
        ofFault value.skip >>= fun _ => record.readMembers source levels start rest := by
      simp [readMembers, spelled, ofFault, unknown, lax, bind, Except.bind]
    simp only [read]
    cases record.readMembers source levels start rest with
    | error refusal =>
      refine .inl fun value final done => ?_
      obtain ⟨_, _, failed⟩ := bindOk done
      contradiction
    | ok final => exact .inr ⟨final, throughOf fun _ => rfl⟩

theorem itemsThrough (rest : Items) (before : List Node) {keys : List Key} (distinct : keys.Nodup)
    (here : keys[before.length]? = some key) (index : Nat) (draft : record.Draft) :
    Reaches
      (fun value => record.readItems source levels draft index keys (.ofList (.cons value rest) before))
      (record.read key source levels) fun final : record.Draft => final.set key := by
  induction before generalizing keys index draft with
  | nil =>
    cases keys with
    | nil => contradiction
    | cons other keys =>
      cases Option.some.inj here
      obtain ⟨absent, _⟩ := List.nodup_cons.mp distinct
      have behind : Indifferent key
          (fun start => record.readItems source levels start (index + 1) keys rest) draft :=
        itemsBehind keys absent rest (index + 1) draft
      exact indifferentThrough behind fun value => rfl
  | cons held before ih =>
    cases keys with
    | nil => contradiction
    | cons other keys =>
      simp only [Items.ofList, readItems]
      cases record.read other source levels held with
      | error refusal => exact .inl (blockedBy fun _ => ⟨refusal, rfl⟩)
      | ok read => exact ih (List.nodup_cons.mp distinct).2 here (index + 1) (draft.set other read)

theorem draftThrough (distinct : record.keys.Nodup) {hole : Hole} (here : record.At key hole)
    (source : Source) (levels : Nat) :
    Reaches (fun value => record.readDraft source levels (hole.fill value))
      (record.read key source (levels - 1)) fun final : record.Draft => final.set key := by
  cases levels with
  | zero => exact .inl (blockedBy fun value => ⟨.fault .malformed, by cases hole <;> rfl⟩)
  | succ levels =>
    cases hole with
    | member before name rest => exact membersThrough here rest before record.empty
    | item before rest => exact itemsThrough rest before distinct here 0 record.empty

end Record
end QueryTree.Json
