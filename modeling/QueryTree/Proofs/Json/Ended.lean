import QueryTree.Proofs.Json.Frames

/-! Texts that are read to the closing bracket of their root. What a record is read from is such a text.
Its tokens do not reach into what is written behind it, where only blanks may stand. -/
namespace QueryTree.Json

def Items.Closed : Items → Prop
  | .closed => True
  | .broken _ => False
  | .cons _ rest => rest.Closed

def Members.Closed : Members → Prop
  | .closed => True
  | .broken _ | .misplaced _ => False
  | .cons _ _ rest => rest.Closed

def Node.Closes : Node → Prop
  | .array items => items.Closed
  | .object members => members.Closed
  | _ => False

theorem itemsClosed {tail : Items} {items : List Node} :
    (Items.ofList tail items).Closed ↔ tail.Closed := by
  induction items with
  | nil => exact Iff.rfl
  | cons item items ih => exact ih

theorem membersClosed {tail : Members} {members : List (RawText × Node)} :
    (Members.ofList tail members).Closed ↔ tail.Closed := by
  induction members with
  | nil => exact Iff.rfl
  | cons member members ih => exact ih

theorem arrayOpen {tail : Items} (opened : ¬ tail.Closed) (items : List Node) :
    ¬ (Node.array (.ofList tail items)).Closes :=
  mt itemsClosed.mp opened

theorem objectOpen {tail : Members} (opened : ¬ tail.Closed) (members : List (RawText × Node)) :
    ¬ (Node.object (.ofList tail members)).Closes :=
  mt membersClosed.mp opened

theorem abandonOpen (fault : Fault) {value : Node} (opened : ¬ value.Closes) (outer : List Frame) :
    ¬ (abandon fault value outer).Closes := by
  induction outer generalizing value with
  | nil => exact opened
  | cons frame outer ih =>
    cases frame with
    | array items => exact ih (arrayOpen id _)
    | object members key => exact ih (objectOpen id _)

theorem failMembersOpen (fault : Fault) {tail : Members} (opened : ¬ tail.Closed)
    (members : List (RawText × Node)) (outer : List Frame) :
    ¬ (failMembers fault tail members outer).Closes :=
  abandonOpen fault (objectOpen opened _) outer

def Progress.Sound : Progress → Prop
  | .failed root => ¬ root.Closes
  | _ => True

theorem placeSound (value : Node) (outer : List Frame) : (place value outer).Sound := by
  cases outer with
  | nil => trivial
  | cons frame outer => cases frame <;> trivial

theorem startSound (t : Token) (outer : List Frame) : (t.startValue outer).Sound := by
  cases t with
  | null | bool | number | text => exact placeSound _ outer
  | openArray | openObject => trivial
  | _ => exact abandonOpen .malformed id outer

theorem stepSound {state : Progress} (sound : state.Sound) (t : Token) : (step state t).Sound := by
  cases state with
  | done root more => trivial
  | failed root => exact sound
  | value outer => exact startSound t outer
  | firstItem outer =>
    by_cases closes : t = .closeArray
    · subst closes
      exact placeSound _ outer
    · rw [stepFirstItem closes]
      exact startSound t _
  | firstKey outer =>
    cases t with
    | closeObject => exact placeSound _ outer
    | text key => trivial
    | _ => exact failMembersOpen .malformed id [] outer
  | key members outer =>
    cases t with
    | text key => trivial
    | _ => exact failMembersOpen .malformed id members outer
  | colon members key outer =>
    cases t with
    | colon => trivial
    | _ => exact abandonOpen .malformed id _
  | afterItem items outer =>
    cases t with
    | closeArray => exact placeSound _ outer
    | comma => trivial
    | _ => exact abandonOpen .malformed (arrayOpen id _) outer
  | afterMember members outer =>
    cases t with
    | closeObject => exact placeSound _ outer
    | comma => trivial
    | _ => exact failMembersOpen .malformed id members outer

theorem runSound (ts : List Token) {state : Progress} (sound : state.Sound) :
    (ts.foldl step state).Sound := by
  induction ts generalizing state with
  | nil => exact sound
  | cons t ts ih => exact ih (stepSound sound t)

theorem finishOpen {state : Progress} (sound : state.Sound) (going : ∀ root more, state ≠ .done root more) :
    ¬ state.finish.root.Closes := by
  cases state with
  | done root more => exact absurd rfl (going root more)
  | failed root => exact sound
  | value outer | colon members key outer => exact abandonOpen .truncated id _
  | firstItem outer => exact abandonOpen .truncated id outer
  | firstKey outer | key members outer | afterMember members outer =>
    exact failMembersOpen .truncated id _ outer
  | afterItem items outer => exact abandonOpen .truncated (arrayOpen id _) outer

theorem placeDone {value root : Node} {outer : List Frame} {more : Bool}
    (done : place value outer = .done root more) : root = value := by
  cases outer with
  | nil =>
    cases done
    rfl
  | cons frame outer => cases frame <;> contradiction

theorem stepDone {state : Progress} {t : Token} {root : Node} (done : step state t = .done root false)
    (closes : root.Closes) : t.isMark = true := by
  cases t with
  | openArray | closeArray | openObject | closeObject | comma | colon => rfl
  | _ =>
    exfalso
    cases state with
    | value outer =>
      -- A single token that is a value is no array and no object.
      first
        | contradiction
        | rw [placeDone done] at closes
          exact closes
    | done root more => cases done
    | _ => contradiction

theorem doneRun (root : Node) (ts : List Token) :
    (ts.foldl step (.done root false)).finish = ⟨root, !ts.isEmpty⟩ := by
  cases ts with
  | nil => rfl
  | cons t ts =>
    rw [List.foldl_cons, step, doneStays]
    rfl

theorem tokensEmpty (text : List Char) : (tokens text).isEmpty = text.all isSpace := by
  induction text with
  | nil => rw [tokens]; rfl
  | cons c rest ih =>
    rw [tokens, List.all_cons]
    split
    · rename_i space
      rw [space, ih, Bool.true_and]
    · rename_i other
      rw [Bool.eq_false_iff.mpr other, Bool.false_and]
      rfl

structure Document.Complete (document : Document) : Prop where
  single : document.more = false
  closes : document.root.Closes

theorem completeRun {text : String} (complete : (Document.ofText text).Complete) :
    (tokens text.toList).foldl step (.value []) = .done (Document.ofText text).root false := by
  have single := complete.single
  have closes := complete.closes
  unfold Document.ofText at single closes ⊢
  have sound : ((tokens text.toList).foldl step (.value [])).Sound := runSound _ trivial
  cases ends : (tokens text.toList).foldl step (.value []) with
  | done root more =>
    rw [ends] at single
    cases show more = false from single
    rfl
  | _ =>
    rw [ends] at sound closes
    exact absurd closes (finishOpen sound nofun)

theorem continuedDocument {text : String} (complete : (Document.ofText text).Complete)
    (behind : String) :
    Document.ofText (text ++ behind) = ⟨(Document.ofText text).root, !behind.toList.all isSpace⟩ := by
  have run := completeRun complete
  have ends : ∀ t ∈ (tokens text.toList).getLast?, t.isMark = true := by
    intro t last
    obtain ⟨before, leads⟩ := lastStep run t last
    exact stepDone leads complete.closes
  rw [Document.ofText, String.toList_append, tokensCut _ _ ends, List.foldl_append, run, doneRun,
    tokensEmpty]

namespace Record

variable {Key : Type} [DecidableEq Key] (record : Record Key) {source : Source} {levels : Nat}

theorem readMembersClosed : (members : Members) → {draft final : record.Draft} →
    record.readMembers source levels draft members = .ok final → members.Closed
  | .closed, _, _, _ => trivial
  | .broken _, _, _, read => by contradiction
  | .misplaced _, _, _, read => by contradiction
  | .cons key value rest, draft, final, read => by
    rw [readMembers] at read
    obtain ⟨name, _, read⟩ := bindOk read
    split at read
    · split at read
      · contradiction
      · obtain ⟨_, _, read⟩ := bindOk read
        exact readMembersClosed rest read
    · split at read
      · contradiction
      · obtain ⟨entry, _, read⟩ := bindOk read
        exact readMembersClosed rest read

theorem readItemsClosed : (items : Items) → {keys : List Key} → {index : Nat} →
    {draft final : record.Draft} →
    record.readItems source levels draft index keys items = .ok final → items.Closed
  | .closed, _, _, _, _, _ => trivial
  | .broken _, keys, _, _, _, read => by cases keys <;> simp [readItems] at read
  | .cons item rest, [], _, _, _, read => by
    simp only [readItems] at read
    split at read <;> contradiction
  | .cons item rest, key :: keys, _, _, _, read => by
    rw [readItems] at read
    obtain ⟨entry, _, read⟩ := bindOk read
    exact readItemsClosed rest read

theorem readerCloses {α : Type} {make : record.Draft → Result α} {node : Node} {a : α}
    (read : record.reader make source levels node = .ok a) : node.Closes := by
  obtain ⟨draft, read, _⟩ := bindOk read
  cases node with
  | array items =>
    cases levels with
    | zero => contradiction
    | succ levels => exact readItemsClosed record items read
  | object members =>
    cases levels with
    | zero => contradiction
    | succ levels => exact readMembersClosed record members read
  | _ => cases levels <;> exact absurd read (unfitFails _ draft)

theorem readContinued {α : Type} {make : record.Draft → Result α} {levels : Node → Nat} {text : String}
    {a : α} (read : readDocument (record.reader make) (levels (Document.ofText text).root)
      (Document.ofText text) = .ok a) (behind : String) :
    readDocument (record.reader make) (levels (Document.ofText (text ++ behind)).root)
      (Document.ofText (text ++ behind)) = if behind.toList.all isSpace then .ok a else malformed := by
  obtain ⟨found, root, ends⟩ := bindOk read
  have single : (Document.ofText text).more = false := by
    cases more : (Document.ofText text).more with
    | false => rfl
    | true =>
      rw [more] at ends
      contradiction
  rw [single] at ends
  cases ends
  rw [continuedDocument ⟨single, readerCloses record root⟩ behind, readDocument, root]
  cases behind.toList.all isSpace <;> rfl

end Record
end QueryTree.Json
