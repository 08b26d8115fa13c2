import Mathlib.Data.List.Induction
import QueryTree.Proofs.Json.Cut
import QueryTree.Proofs.Json.Hole

/-! A value in the middle of a text: the arrays and objects around it become places that it stands in,
and what these hold besides does not depend on the value. -/
namespace QueryTree.Json

def plug (holes : List Hole) (value : Node) : Node := holes.foldl (fun inner hole => hole.fill inner) value

inductive Frame.Becomes : Frame → Hole → Prop
  | array (items : List Node) (rest : Items) : Becomes (.array items) (.item items.reverse rest)
  | object (members : List (RawText × Node)) (key : RawText) (rest : Members) :
    Becomes (.object members key) (.member members.reverse key rest)

theorem becomesLast {path : List Frame} {frame : Frame} {all : List Hole}
    (becomes : List.Forall₂ Frame.Becomes (path ++ [frame]) all) :
    ∃ holes hole, all = holes ++ [hole] ∧ List.Forall₂ Frame.Becomes path holes ∧ frame.Becomes hole := by
  induction path generalizing all with
  | nil =>
    obtain ⟨hole, none, last, ends, rfl⟩ := List.forall₂_cons_left_iff.mp becomes
    cases ends
    exact ⟨[], hole, rfl, .nil, last⟩
  | cons inner path ih =>
    obtain ⟨first, others, here, later, rfl⟩ := List.forall₂_cons_left_iff.mp becomes
    obtain ⟨holes, hole, rfl, inside, last⟩ := ih later
    exact ⟨first :: holes, hole, rfl, .cons here inside, last⟩

theorem plugLast (holes : List Hole) (hole : Hole) (value : Node) :
    plug (holes ++ [hole]) value = hole.fill (plug holes value) := by
  rw [plug, List.foldl_append]
  rfl

theorem plugDepth {value other : Node} (same : value.depth = other.depth) (holes : List Hole) :
    (plug holes value).depth = (plug holes other).depth := by
  induction holes generalizing value other with
  | nil => exact same
  | cons hole holes ih => exact ih (fillDepth hole same)

theorem plugReadable (holes : List Hole) : ∃ others : Prop, ∀ value,
    (plug holes value).Everywhere Node.Readable ↔ others ∧ value.Everywhere Node.Readable := by
  induction holes with
  | nil => exact ⟨True, fun value => (and_iff_right trivial).symm⟩
  | cons hole holes ih =>
    obtain ⟨outside, readable⟩ := ih
    obtain ⟨others, inside⟩ := fillReadable hole
    refine ⟨outside ∧ others, fun value => ?_⟩
    rw [plug, List.foldl_cons, ← plug, readable, inside, and_assoc]

def Record.Leads {Key : Type} (record : Record Key) (key : Key) : Frame → Prop
  | .array items => record.keys[items.length]? = some key
  | .object _ name => record.keyOf name = .ok (some key)

theorem Record.leadsAt {Key : Type} {record : Record Key} {key : Key} {frame : Frame} {hole : Hole}
    (leads : record.Leads key frame) (becomes : frame.Becomes hole) : record.At key hole := by
  cases becomes with
  | array items rest =>
    rw [At, List.length_reverse]
    exact leads
  | object members name rest => exact leads

@[simp] theorem itemsOfListAppend (tail : Items) (before after : List Node) :
    Items.ofList tail (before ++ after) = .ofList (.ofList tail after) before := by
  induction before with
  | nil => rfl
  | cons item before ih => rw [List.cons_append, Items.ofList, ih, Items.ofList]

@[simp] theorem membersOfListAppend (tail : Members) (before after : List (RawText × Node)) :
    Members.ofList tail (before ++ after) = .ofList (.ofList tail after) before := by
  induction before with
  | nil => rfl
  | cons member before ih => rw [List.cons_append, Members.ofList, ih, Members.ofList]

theorem itemsFilled (tail : Items) (recent items : List Node) (value : Node) :
    Node.array (.ofList tail (recent ++ value :: items).reverse) =
      (Hole.item items.reverse (.ofList tail recent.reverse)).fill value := by
  rw [List.reverse_append, List.reverse_cons, List.append_assoc, itemsOfListAppend,
    List.singleton_append, Items.ofList, Hole.fill]

theorem membersFilled (tail : Members) (recent members : List (RawText × Node)) (key : RawText)
    (value : Node) :
    Node.object (.ofList tail (recent ++ (key, value) :: members).reverse) =
      (Hole.member members.reverse key (.ofList tail recent.reverse)).fill value := by
  rw [List.reverse_append, List.reverse_cons, List.append_assoc, membersOfListAppend,
    List.singleton_append, Members.ofList, Hole.fill]

def Plugged (outer : List Frame) (run : Node → Progress) : Prop :=
  ∃ holes more, List.Forall₂ Frame.Becomes outer holes ∧
    ∀ value, (run value).finish = ⟨plug holes value, more⟩

theorem pluggedInside {frame : Frame} {hole : Hole} {outer : List Frame} {run inner : Node → Progress}
    (becomes : frame.Becomes hole) (plugged : Plugged outer run)
    (same : ∀ value, (inner value).finish = (run (hole.fill value)).finish) :
    Plugged (frame :: outer) inner := by
  obtain ⟨holes, more, around, ends⟩ := plugged
  exact ⟨hole :: holes, more, .cons becomes around, fun value => by rw [same, ends]; rfl⟩

theorem abandonPlugged (fault : Fault) (outer : List Frame) :
    Plugged outer fun value => .failed (abandon fault value outer) := by
  induction outer with
  | nil => exact ⟨[], false, .nil, fun value => rfl⟩
  | cons frame outer ih =>
    cases frame with
    | array items =>
      refine pluggedInside (.array items (.broken fault)) ih fun value => ?_
      rw [abandon, ← List.nil_append (value :: items), itemsFilled]
      rfl
    | object members key =>
      refine pluggedInside (.object members key (.broken fault)) ih fun value => ?_
      rw [abandon, ← List.nil_append ((key, value) :: members), membersFilled]
      rfl

theorem failedStays (root : Node) (ts : List Token) : ts.foldl step (.failed root) = .failed root := by
  induction ts with
  | nil => rfl
  | cons t ts ih => exact ih

theorem doneStays (root : Node) (ts : List Token) :
    ts.foldl step (.done root true) = .done root true := by
  induction ts with
  | nil => rfl
  | cons t ts ih => exact ih

def Progress.below (frames : List Frame) : Progress → Progress
  | .value outer => .value (outer ++ frames)
  | .firstItem outer => .firstItem (outer ++ frames)
  | .firstKey outer => .firstKey (outer ++ frames)
  | .key members outer => .key members (outer ++ frames)
  | .colon members name outer => .colon members name (outer ++ frames)
  | .afterItem items outer => .afterItem items (outer ++ frames)
  | .afterMember members outer => .afterMember members (outer ++ frames)
  | .done root _ => place root frames
  | .failed root => .failed (abandon .malformed root frames)

@[simp] theorem abandonAppend (fault : Fault) (value : Node) (outer frames : List Frame) :
    abandon fault value (outer ++ frames) = abandon fault (abandon fault value outer) frames := by
  induction outer generalizing value with
  | nil => rfl
  | cons frame outer ih => cases frame <;> exact ih _

theorem placeBelow (value : Node) (outer frames : List Frame) :
    place value (outer ++ frames) = (place value outer).below frames := by
  cases outer with
  | nil => rfl
  | cons frame outer => cases frame <;> rfl

theorem startBelow (t : Token) (outer frames : List Frame) :
    t.startValue (outer ++ frames) = (t.startValue outer).below frames := by
  cases t with
  | null | bool | number | text => exact placeBelow _ outer frames
  | openArray | openObject => rfl
  | _ => exact congrArg Progress.failed (abandonAppend _ _ outer frames)

theorem stepBelow {state : Progress} (t : Token) (frames : List Frame)
    (going : ∀ root more, state ≠ .done root more) :
    step (state.below frames) t = (step state t).below frames := by
  cases state with
  | done root more => exact absurd rfl (going root more)
  | failed root => rfl
  | value outer => exact startBelow t outer frames
  | firstItem outer =>
    by_cases closes : t = .closeArray
    · subst closes
      exact placeBelow _ outer frames
    · rw [Progress.below, stepFirstItem closes, stepFirstItem closes]
      exact startBelow t (.array [] :: outer) frames
  | firstKey outer =>
    cases t with
    | closeObject => exact placeBelow _ outer frames
    | text key => rfl
    | _ => exact congrArg Progress.failed (abandonAppend _ _ outer frames)
  | key members outer =>
    cases t with
    | text key => rfl
    | _ => exact congrArg Progress.failed (abandonAppend _ _ outer frames)
  | colon members key outer =>
    cases t with
    | colon => rfl
    | _ => exact congrArg Progress.failed (abandonAppend _ _ (.object members key :: outer) frames)
  | afterItem items outer =>
    cases t with
    | closeArray => exact placeBelow _ outer frames
    | comma => rfl
    | _ => exact congrArg Progress.failed (abandonAppend _ _ outer frames)
  | afterMember members outer =>
    cases t with
    | closeObject => exact placeBelow _ outer frames
    | comma => rfl
    | _ => exact congrArg Progress.failed (abandonAppend _ _ outer frames)

theorem finishBelow {state : Progress} (going : ∀ root more, state ≠ .done root more) :
    ∃ fault root, ∀ frames, (state.below frames).finish = ⟨abandon fault root frames, false⟩ := by
  cases state with
  | done root more => exact absurd rfl (going root more)
  | failed root => exact ⟨.malformed, root, fun _ => rfl⟩
  | value outer | firstItem outer | firstKey outer | key members outer | afterItem items outer
    | afterMember members outer =>
    exact ⟨_, _, fun frames => congrArg (Document.mk · false) (abandonAppend _ _ outer frames)⟩
  | colon members key outer =>
    exact ⟨_, _, fun frames =>
      congrArg (Document.mk · false) (abandonAppend _ _ (.object members key :: outer) frames)⟩

theorem runBelow (ts : List Token) (state : Progress) :
    (∃ fault root, ∀ frames,
      (ts.foldl step (state.below frames)).finish = ⟨abandon fault root frames, false⟩) ∨
    ∃ root, ∃ later : List Token, later.length ≤ ts.length ∧
      ∀ frames, ts.foldl step (state.below frames) = later.foldl step (place root frames) := by
  induction ts generalizing state with
  | nil =>
    cases state with
    | done root more => exact .inr ⟨root, [], Nat.le_refl _, fun _ => rfl⟩
    | _ => exact .inl (finishBelow nofun)
  | cons t ts ih =>
    by_cases going : ∀ root more, state ≠ .done root more
    · simp only [List.foldl_cons, stepBelow t _ going]
      refine (ih (step state t)).imp_right ?_
      rintro ⟨root, later, shorter, same⟩
      exact ⟨root, later, Nat.le_succ_of_le shorter, same⟩
    · simp only [not_forall, not_not] at going
      obtain ⟨root, more, rfl⟩ := going
      exact .inr ⟨root, t :: ts, Nat.le_refl _, fun _ => rfl⟩

theorem keyRun (ts : List Token) :
    (∃ fault tail, ∀ members outer, (ts.foldl step (.key members outer)).finish =
      ⟨failMembers fault tail members outer, false⟩) ∨
    ∃ key, ∃ later : List Token, later.length ≤ ts.length ∧ ∀ members outer,
      ts.foldl step (.key members outer) = later.foldl step (.value (.object members key :: outer)) := by
  cases ts with
  | nil => exact .inl ⟨_, _, fun _ _ => rfl⟩
  | cons t ts =>
    simp only [List.foldl_cons]
    cases t with
    | text key =>
      have breaks (fault : Fault) (flaw : Flaw) (members : List (RawText × Node)) (outer : List Frame) :
          abandon fault (.broken flaw) (.object members key :: outer) =
            failMembers fault (.cons key (.broken flaw) (.broken fault)) members outer := by
        rw [abandon, failMembers, List.reverse_cons, membersOfListAppend]
        rfl
      simp only [step]
      cases ts with
      | nil =>
        exact .inl ⟨_, _, fun members outer => congrArg (Document.mk · false) (breaks _ _ members outer)⟩
      | cons t ts =>
        simp only [List.foldl_cons]
        by_cases colon : t = .colon
        · subst colon
          exact .inr ⟨key, ts, by simp only [List.length_cons]; omega, fun _ _ => rfl⟩
        · refine .inl ⟨.malformed, .cons key (.broken .stray) (.broken .malformed),
            fun members outer => ?_⟩
          have stops : step (.colon members key outer) t =
              .failed (abandon .malformed (.broken .stray) (.object members key :: outer)) := by
            cases t <;> first | rfl | contradiction
          rw [stops, failedStays, breaks]
          rfl
    | _ =>
      simp only [step, failedStays]
      exact .inl ⟨_, _, fun _ _ => rfl⟩

theorem itemsBroken {fault : Fault} {tail : Items} {recent items : List Node} {outer : List Frame}
    {run : Node → Progress} (ends : ∀ value, (run value).finish =
      ⟨abandon fault (.array (.ofList tail (recent ++ value :: items).reverse)) outer, false⟩) :
    Plugged (.array items :: outer) run := by
  refine pluggedInside (.array items (.ofList tail recent.reverse)) (abandonPlugged fault outer)
    fun value => ?_
  rw [ends, itemsFilled]
  rfl

theorem membersBroken {fault : Fault} {tail : Members} {recent members : List (RawText × Node)}
    {key : RawText} {outer : List Frame} {run : Node → Progress} (ends : ∀ value, (run value).finish =
      ⟨failMembers fault tail (recent ++ (key, value) :: members) outer, false⟩) :
    Plugged (.object members key :: outer) run := by
  refine pluggedInside (.object members key (.ofList tail recent.reverse)) (abandonPlugged fault outer)
    fun value => ?_
  rw [ends, failMembers, membersFilled]
  rfl

mutual

theorem placePlugged (ts : List Token) : (outer : List Frame) →
    Plugged outer fun value => ts.foldl step (place value outer)
  | [] => by
    cases ts with
    | nil => exact ⟨[], false, .nil, fun _ => rfl⟩
    | cons t ts =>
      refine ⟨[], true, .nil, fun value => ?_⟩
      simp only [place, List.foldl_cons, step, doneStays]
      rfl
  | .array items :: outer => itemsPlugged ts [] items outer
  | .object members key :: outer => membersPlugged ts [] members key outer
termination_by (ts.length, 1)

theorem itemsPlugged (ts : List Token) (recent items : List Node) (outer : List Frame) :
    Plugged (.array items :: outer)
      fun value => ts.foldl step (.afterItem (recent ++ value :: items) outer) := by
  match ts with
  | [] => exact itemsBroken fun _ => rfl
  | .closeArray :: ts =>
    refine pluggedInside (.array items (.ofList .closed recent.reverse)) (placePlugged ts outer)
      fun value => ?_
    rw [List.foldl_cons, step, itemsFilled]
  | .comma :: ts =>
    rcases runBelow ts (.value []) with ⟨fault, root, ends⟩ | ⟨root, later, shorter, same⟩
    · have broken (value : Node) := ends (.array (recent ++ value :: items) :: outer)
      simp only [abandon, ← List.cons_append] at broken
      exact itemsBroken broken
    · have closed (value : Node) := same (.array (recent ++ value :: items) :: outer)
      simp only [place, ← List.cons_append] at closed
      obtain ⟨holes, more, around, done⟩ := itemsPlugged later (root :: recent) items outer
      exact ⟨holes, more, around, fun value => (congrArg Progress.finish (closed value)).trans (done value)⟩
  | .openArray :: ts | .openObject :: ts | .closeObject :: ts | .colon :: ts | .null :: ts
  | .bool _ :: ts | .number _ :: ts | .text _ :: ts | .flaw _ :: ts =>
    exact itemsBroken fun value => congrArg Progress.finish (failedStays
      (abandon .malformed (.array (.ofList (.broken .malformed) (recent ++ value :: items).reverse)) outer) ts)
termination_by (ts.length, 0)

theorem membersPlugged (ts : List Token) (recent members : List (RawText × Node)) (key : RawText)
    (outer : List Frame) : Plugged (.object members key :: outer)
      fun value => ts.foldl step (.afterMember (recent ++ (key, value) :: members) outer) := by
  match ts with
  | [] => exact membersBroken fun _ => rfl
  | .closeObject :: ts =>
    refine pluggedInside (.object members key (.ofList .closed recent.reverse))
      (placePlugged ts outer) fun value => ?_
    rw [List.foldl_cons, step, membersFilled]
  | .comma :: ts =>
    rcases keyRun ts with ⟨fault, tail, ends⟩ | ⟨name, after, shorter, reached⟩
    · exact membersBroken fun value => ends (recent ++ (key, value) :: members) outer
    have begun (value : Node) := reached (recent ++ (key, value) :: members) outer
    rcases runBelow after (.value []) with ⟨fault, root, ends⟩ | ⟨root, later, shorterToo, same⟩
    · have broken (value : Node) := ends (.object (recent ++ (key, value) :: members) name :: outer)
      simp only [abandon, ← List.cons_append] at broken
      exact membersBroken fun value => (congrArg Progress.finish (begun value)).trans (broken value)
    · have closed (value : Node) := same (.object (recent ++ (key, value) :: members) name :: outer)
      simp only [place, ← List.cons_append] at closed
      obtain ⟨holes, more, around, done⟩ := membersPlugged later ((name, root) :: recent) members key outer
      exact ⟨holes, more, around, fun value =>
        (congrArg Progress.finish ((begun value).trans (closed value))).trans (done value)⟩
  | .openArray :: ts | .openObject :: ts | .closeArray :: ts | .colon :: ts | .null :: ts
  | .bool _ :: ts | .number _ :: ts | .text _ :: ts | .flaw _ :: ts =>
    exact membersBroken fun value => congrArg Progress.finish (failedStays
      (failMembers .malformed (.broken .malformed) (recent ++ (key, value) :: members) outer) ts)
termination_by (ts.length, 0)

end

theorem placeElsewhere (value : Node) (outer others : List Frame) : place value outer ≠ .value others := by
  cases outer with
  | nil => nofun
  | cons frame outer => cases frame <;> nofun

theorem stepDue {state : Progress} {t : Token} {outer : List Frame}
    (due : step state t = .value outer) : t.isMark = true := by
  cases t with
  | comma | colon => rfl
  | _ =>
    exfalso
    cases state <;>
      first
        | contradiction
        | exact placeElsewhere _ _ outer due

theorem lastStep {ts : List Token} {start state : Progress} (run : ts.foldl step start = state) :
    ∀ t ∈ ts.getLast?, ∃ before, step before t = state := by
  cases ts using List.reverseRecOn with
  | nil => nofun
  | append_singleton before last _ =>
    rw [List.foldl_append] at run
    intro t same
    rw [List.getLast?_concat, Option.mem_some_iff] at same
    exact ⟨_, same ▸ run⟩

theorem valueDue {ts : List Token} {outer : List Frame}
    (due : ts.foldl step (.value []) = .value outer) : ∀ t ∈ ts.getLast?, t.isMark = true := by
  intro t last
  obtain ⟨before, leads⟩ := lastStep due t last
  exact stepDue leads

/-- What stands before and behind a value that the text has in a place where one is due. -/
structure Spot where
  before : List Char
  after : List Char
  outer : List Frame
  due : (tokens before).foldl step (.value []) = .value outer
  ends : Text.StopsAt endsDigits after

def Spot.text (spot : Spot) (value : List Char) : String :=
  String.ofList (spot.before ++ (value ++ spot.after))

def Spells (text : List Char) (value : Node) : Prop :=
  ∀ rest, Text.StopsAt endsDigits rest →
    ∃ t, tokens (text ++ rest) = t :: tokens rest ∧ ∀ outer, t.startValue outer = place value outer

theorem spellsNull : Spells ['n', 'u', 'l', 'l'] .null :=
  fun _ _ => ⟨.null, tokensStart rfl rfl, fun _ => rfl⟩

theorem Spot.document (spot : Spot) : ∃ holes more, List.Forall₂ Frame.Becomes spot.outer holes ∧
    ∀ {text value}, Spells text value → Document.ofText (spot.text text) = ⟨plug holes value, more⟩ := by
  obtain ⟨holes, more, around, done⟩ := placePlugged (tokens spot.after) spot.outer
  refine ⟨holes, more, around, fun {text value} spells => ?_⟩
  obtain ⟨t, spelled, starts⟩ := spells spot.after spot.ends
  rw [Document.ofText, Spot.text, String.toList_ofList, tokensCut _ _ (valueDue spot.due),
    List.foldl_append, spot.due, spelled, List.foldl_cons, step, starts]
  exact done value

end QueryTree.Json
