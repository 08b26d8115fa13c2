import QueryTree.Proofs.Filter.Json

/-! Which objects are read as a condition and which as a group. -/
namespace QueryTree

open Json (Decides Members Taken valuesOf)

theorem Value.decides (source : Json.Source) (levels : Nat) :
    Decides (Value.read source levels) levels fun json v => v = ofJson json := by
  intro node json held within v
  rw [read, ofNodeHolds json held within, Except.ok.injEq, eq_comm]

namespace Condition

structure Described (named : List (String × Json)) (c : Condition) : Prop where
  field : valuesOf "field" named = [.string c.field]
  value : valuesOf "value" named = [] ∧ c.value = .null ∨
    ∃ json, valuesOf "value" named = [json] ∧ c.value = .ofJson json
  operator : valuesOf "operator" named = [] ∧ c.operator = none ∨
    valuesOf "operator" named = [Json.orNull .string c.operator]

def means : (key : Key) → Json → record.Entry key → Prop
  | .field, json, s => json = .string s
  | .value, json, v => v = Value.ofJson json
  | .operator, json, o => json = Json.orNull .string o

theorem operatorMeans (json : Json) (o : Option String) :
    (json = .null ∧ o = none ∨ json ≠ .null ∧ ∃ s, json = .string s ∧ o = some s) ↔
      json = Json.orNull .string o := by
  cases o with
  | none => simp [Json.orNull]
  | some s =>
    simp only [Json.orNull, Option.elim]
    constructor
    · rintro (⟨_, none⟩ | ⟨_, t, rfl, same⟩)
      · contradiction
      · cases same
        rfl
    · rintro rfl
      exact .inr ⟨nofun, s, rfl, rfl⟩

theorem decides (source : Json.Source) (levels : Nat) (key : Key) :
    Decides (record.read key source levels) levels (means key) := by
  cases key with
  | field => exact Json.decidesString source levels
  | value => exact Value.decides source levels
  | operator =>
    intro node json held within o
    exact (Json.decidesOption (Json.decidesString source levels) held within o).trans
      (operatorMeans json o)

def Fits (c : Condition) : (key : Key) → Option (record.Entry key) → Prop
  | .field, s? => s? = some c.field
  | .value, v? => v?.getD Value.null = c.value
  | .operator, o? => o?.getD none = c.operator

theorem ofDraftOk (c : Condition) (draft : record.Draft) :
    ofDraft draft = .ok c ↔ ∀ key, c.Fits key (draft key) := by
  cases set : draft .field with
  | none =>
    refine iff_of_false ?_ fun fits => ?_
    · simp [ofDraft, Json.Record.Draft.require, set, bind, Except.bind]
    · have field := fits .field
      rw [set] at field
      contradiction
  | some s =>
    have made : ofDraft draft =
        .ok ⟨s, (draft .value).getD Value.null, (draft .operator).getD none⟩ := by
      simp only [ofDraft, Json.Record.Draft.require, set, bind, Except.bind]
      rfl
    rw [made]
    constructor
    · rintro ⟨⟩ key
      cases key with
      | field => exact set
      | value | operator => rfl
    · intro fits
      have field : some s = some c.field := set.symm.trans (fits .field)
      have value : (draft .value).getD Value.null = c.value := fits .value
      have operator : (draft .operator).getD none = c.operator := fits .operator
      rw [Option.some.inj field, value, operator]

theorem fieldTaken {values : List Json} {c : Condition} :
    (∃ s?, Taken (means .field) none values s? ∧ c.Fits .field s?) ↔ values = [.string c.field] := by
  constructor
  · rintro ⟨_, taken, rfl⟩
    obtain ⟨_, single, rfl⟩ := Json.takenEntry.mp taken
    exact single
  · intro single
    exact ⟨_, Json.takenEntry.mpr ⟨_, single, rfl⟩, rfl⟩

theorem valueTaken {values : List Json} {c : Condition} :
    (∃ v?, Taken (means .value) none values v? ∧ c.Fits .value v?) ↔
      values = [] ∧ c.value = .null ∨ ∃ json, values = [json] ∧ c.value = .ofJson json :=
  Json.takenDefault

theorem operatorTaken {values : List Json} {c : Condition} :
    (∃ o?, Taken (means .operator) none values o? ∧ c.Fits .operator o?) ↔
      values = [] ∧ c.operator = none ∨ values = [Json.orNull .string c.operator] :=
  Json.takenDefault.trans (or_congr_right
    ⟨fun ⟨_, single, same⟩ => same ▸ single, fun single => ⟨_, single, rfl⟩⟩)

theorem readDescribed {named : List (String × Json)} {members : Members} {source : Json.Source}
    {levels : Nat} (held : members.Holds named) (within : Json.depthMembers named ≤ levels)
    (c : Condition) : read source (levels + 1) (.object members) = .ok c ↔ c.Described named := by
  rw [read, Json.Record.readerTaken rfl (decides source levels) c.ofDraftOk held within]
  simp only [Json.Record.leadsName recordSound (fun _ => rfl)]
  constructor
  · intro each
    exact ⟨fieldTaken.mp (each .field), valueTaken.mp (each .value), operatorTaken.mp (each .operator)⟩
  · rintro ⟨field, value, operator⟩ key
    cases key with
    | field => exact fieldTaken.mpr field
    | value => exact valueTaken.mpr value
    | operator => exact operatorTaken.mpr operator

end Condition

namespace Group

def isName (name : String) : Bool := ["operator", "conditions", "groups"].contains name

theorem membersKept {nested : Json.Reader Group} {named : List (String × Json)} {members : Members}
    (held : members.Holds named) (source : Json.Source) (levels : Nat)
    (start : (record nested).Draft) :
    (record nested).readMembers source levels start (members.keep isName) =
      (record nested).readMembers source levels start members := by
  have known : (fun name => ((record nested).ofName? name).isSome) = isName :=
    funext fun name => Json.Record.knownName (fun _ => rfl) name
  rw [← known]
  exact Json.Record.readMembersKept rfl held source levels start

theorem readKept {named : List (String × Json)} {members : Members} (held : members.Holds named)
    (source : Json.Source) (levels : Nat) :
    read source (levels + 1) (.object (members.keep isName)) =
      read source (levels + 1) (.object members) := by
  rw [read, read, readWithin]
  simp only [Json.Record.reader, Json.Record.readDraft, membersKept held]

theorem keepNone {p : String → Bool} {named : List (String × Json)} {members : Members}
    (held : members.Holds named) (apart : ∀ member ∈ named, p member.1 = false) :
    members.keep p = .closed := by
  induction named generalizing members with
  | nil =>
    cases held with
    | closed => rfl
  | cons member named ih =>
    cases held with
    | cons readKey head tail =>
      have others := ih tail fun member inside => apart member (List.mem_cons_of_mem _ inside)
      have differs := apart _ List.mem_cons_self
      simp only [Members.keep, readKey, differs, others, Bool.false_eq_true, if_false]

theorem readNone {named : List (String × Json)} {members : Members} (held : members.Holds named)
    (apart : ∀ member ∈ named, isName member.1 = false) (source : Json.Source) (levels : Nat) :
    read source (levels + 1) (.object members) = .ok ⟨.and, [], []⟩ := by
  rw [← readKept held source levels, keepNone held apart]
  rfl

end Group

namespace Filter

variable {source : Json.Source} {levels : Nat} {node : Json.Node}

theorem readChecked {f : Filter} (done : read source levels node = .ok f) :
    node.check levels = .ok () := by
  obtain ⟨_, checked, _⟩ := Json.bindOk done
  exact Json.ofFaultRead checked

theorem readLeaf (whole : node.check levels = .ok ()) (c : Condition) :
    read source levels node = .ok (.leaf c) ↔ Condition.read .choice levels node = .ok c := by
  rw [read, Json.ofFaultOk whole]
  simp only [bind, Except.bind]
  split
  · rename_i other done
    simp [done, pure, Except.pure]
  · rename_i failed
    rw [failed]
    split <;> simp [pure, Except.pure]

theorem readGroup (whole : node.check levels = .ok ()) (g : Group) :
    read source levels node = .ok (.group g) ↔
      (∀ c, Condition.read .choice levels node ≠ .ok c) ∧ Group.read .choice levels node = .ok g := by
  rw [read, Json.ofFaultOk whole]
  simp only [bind, Except.bind]
  split
  · rename_i other done
    simp [done, pure, Except.pure]
  · rename_i failed
    rw [failed]
    split
    · rename_i group done
      simp [done, pure, Except.pure]
    · rename_i failed
      simp [failed]

/-- An object is read as the condition that it describes, whatever else stands in it. One that
describes none is read as the group of its other members, even when it has a field. So an object is a
condition of its field or refused just when it describes a condition or those members make no group. -/
theorem objectExact {named : List (String × Json)} {members : Members}
    (held : members.Holds named) (within : Json.depthMembers named ≤ levels) :
    (∀ c, read source (levels + 1) (.object members) = .ok (.leaf c) ↔ c.Described named) ∧
    (∀ g, read source (levels + 1) (.object members) = .ok (.group g) ↔
      (∀ c : Condition, ¬ c.Described named) ∧
      Group.read .choice (levels + 1) (.object (members.keep Group.isName)) = .ok g) ∧
    ((∀ f, read source (levels + 1) (.object members) = .ok f →
        ∃ c, f = .leaf c ∧ valuesOf "field" named = [.string c.field]) ↔
      (∃ c : Condition, c.Described named) ∨
      ∀ g, Group.read .choice (levels + 1) (.object (members.keep Group.isName)) ≠ .ok g) ∧
    ((∀ c : Condition, ¬ c.Described named) → (∀ member ∈ named, Group.isName member.1 = false) →
      read source (levels + 1) (.object members) = .ok (.group ⟨.and, [], []⟩)) := by
  have whole : (Json.Node.object members).check (levels + 1) = .ok () :=
    Json.holdsMembersCheck named held within
  have described : ∀ c, Condition.read .choice (levels + 1) (.object members) = .ok c ↔
      c.Described named := Condition.readDescribed held within
  have leaf : ∀ c, read source (levels + 1) (.object members) = .ok (.leaf c) ↔
      c.Described named := fun c => (readLeaf whole c).trans (described c)
  have group : ∀ g, read source (levels + 1) (.object members) = .ok (.group g) ↔
      (∀ c : Condition, ¬ c.Described named) ∧
      Group.read .choice (levels + 1) (.object (members.keep Group.isName)) = .ok g := fun g => by
    rw [readGroup whole, Group.readKept held]
    exact and_congr_left' (forall_congr' fun c => not_congr (described c))
  refine ⟨leaf, group, ⟨fun rule => ?_, fun cases f done => ?_⟩, fun none apart => ?_⟩
  · by_cases some : ∃ c : Condition, c.Described named
    · exact .inl some
    · refine .inr fun g done => ?_
      obtain ⟨c, same, _⟩ := rule (.group g) ((group g).mpr ⟨not_exists.mp some, done⟩)
      contradiction
  · cases f with
    | leaf c => exact ⟨c, rfl, ((leaf c).mp done).field⟩
    | group g =>
      obtain ⟨none, made⟩ := (group g).mp done
      rcases cases with ⟨c, some⟩ | fails
      · exact absurd some (none c)
      · exact absurd made (fails g)
  · rw [group, Group.readKept held]
    exact ⟨none, Group.readNone held apart .choice levels⟩

def mistaken : Members :=
  .cons ⟨['f', 'i', 'e', 'l', 'd'].map .char, none⟩ (.number ⟨false, ['5'], none, none⟩) .closed

theorem mistakenHolds : mistaken.Holds [("field", .integer 5)] :=
  .cons (by decide) (.integer rfl) .closed

theorem mistakenGroup : mistaken.Holds [("field", .integer 5)] ∧
    read .text 127 (.object mistaken) = .ok (.group ⟨.and, [], []⟩) := by
  refine ⟨mistakenHolds, (objectExact mistakenHolds (by decide)).2.2.2 (fun c described => ?_) ?_⟩
  · have field := described.field
    simp [valuesOf, Json.valuesWhere] at field
  · decide

theorem fieldLost :
    Json.readDocument read 127 (.ofText "\x7b\"field\":5\x7d") = .ok (.group ⟨.and, [], []⟩) ∧
    Json.readDocument read 127 (.ofText "\x7b\"field\":\"a\",\"field\":\"a\"\x7d") =
      .ok (.group ⟨.and, [], []⟩) := by
  have twice : Json.Document.ofText "\x7b\"field\":\"a\",\"field\":\"a\"\x7d" =
      ⟨.object (.ofList .closed [(.ofChars "field".toList, .text (.ofChars "a".toList)),
        (.ofChars "field".toList, .text (.ofChars "a".toList))]), false⟩ := by decide +kernel
  exact ⟨Json.parsedRead (.object mistaken) (by decide +kernel) rfl, Json.parsedRead _ twice rfl⟩

end Filter
end QueryTree
