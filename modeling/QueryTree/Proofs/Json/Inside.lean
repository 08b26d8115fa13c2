import QueryTree.Json.Text

/-! JSON inside of JSON. Its text stands in the text of the whole, on one line or indented. -/
namespace QueryTree.Json

inductive Inside (inner : Json) : Json → Prop
  | here : Inside inner inner
  | item {items json} (listed : json ∈ items) (inside : Inside inner json) : Inside inner (.array items)
  | member {members name json} (listed : (name, json) ∈ members) (inside : Inside inner json) :
    Inside inner (.object members)

theorem itemCompact {items : List Json} {json : Json} (listed : json ∈ items) :
    json.compactText <:+: compactItems items := by
  induction items with
  | nil => contradiction
  | cons first rest ih =>
    cases rest with
    | nil =>
      cases List.mem_singleton.mp listed
      exact List.infix_rfl
    | cons next more =>
      change _ <:+: first.compactText ++ ',' :: compactItems (next :: more)
      rcases List.mem_cons.mp listed with rfl | later
      · exact (List.prefix_append _ _).isInfix
      · exact (ih later).trans ((List.suffix_cons _ _).trans (List.suffix_append _ _)).isInfix

theorem memberCompact {members : List (String × Json)} {name : String} {value : Json}
    (listed : (name, value) ∈ members) :
    stringText name ++ ':' :: value.compactText <:+: compactMembers members := by
  induction members with
  | nil => contradiction
  | cons first rest ih =>
    obtain ⟨other, held⟩ := first
    cases rest with
    | nil =>
      cases List.mem_singleton.mp listed
      exact List.infix_rfl
    | cons next more =>
      change _ <:+: stringText other ++ ':' :: held.compactText ++ ',' :: compactMembers (next :: more)
      rcases List.mem_cons.mp listed with same | later
      · cases same
        exact (List.prefix_append _ _).isInfix
      · exact (ih later).trans ((List.suffix_cons _ _).trans (List.suffix_append _ _)).isInfix

theorem itemPretty {items : List Json} {json : Json} (listed : json ∈ items) (level : Nat) :
    json.prettyText level <:+: prettyItems level items := by
  induction items with
  | nil => contradiction
  | cons first rest ih =>
    cases rest with
    | nil =>
      cases List.mem_singleton.mp listed
      exact (List.suffix_append _ _).isInfix
    | cons next more =>
      change _ <:+: newLine level ++ first.prettyText level ++ ',' :: prettyItems level (next :: more)
      rcases List.mem_cons.mp listed with rfl | later
      · exact (List.suffix_append _ _).isInfix.trans (List.prefix_append _ _).isInfix
      · exact (ih later).trans ((List.suffix_cons _ _).trans (List.suffix_append _ _)).isInfix

theorem memberPretty {members : List (String × Json)} {name : String} {value : Json}
    (listed : (name, value) ∈ members) (level : Nat) :
    stringText name ++ ':' :: ' ' :: value.prettyText level <:+: prettyMembers level members := by
  induction members with
  | nil => contradiction
  | cons first rest ih =>
    obtain ⟨other, held⟩ := first
    cases rest with
    | nil =>
      cases List.mem_singleton.mp listed
      rw [prettyMembers, List.append_assoc]
      exact (List.suffix_append _ _).isInfix
    | cons next more =>
      change _ <:+: newLine level ++ stringText other ++ ':' :: ' ' :: held.prettyText level ++
        ',' :: prettyMembers level (next :: more)
      rcases List.mem_cons.mp listed with same | later
      · cases same
        rw [List.append_assoc (newLine level)]
        exact (List.suffix_append _ _).isInfix.trans (List.prefix_append _ _).isInfix
      · exact (ih later).trans ((List.suffix_cons _ _).trans (List.suffix_append _ _)).isInfix

theorem bracketed {part inner : List Char} (inside : part <:+: inner) (start : Char) (stop : List Char) :
    part <:+: start :: inner ++ stop :=
  inside.trans ((List.suffix_cons _ _).isInfix.trans (List.prefix_append _ _).isInfix)

theorem arrayCompact {part : List Char} {items : List Json} (inside : part <:+: compactItems items) :
    part <:+: (Json.array items).compactText := bracketed inside '[' [']']

theorem objectCompact {part : List Char} {members : List (String × Json)}
    (inside : part <:+: compactMembers members) : part <:+: (Json.object members).compactText :=
  bracketed inside '\x7b' ['\x7d']

theorem arrayPretty {part : List Char} {items : List Json} (level : Nat) (filled : items ≠ [])
    (inside : part <:+: prettyItems (level + 1) items) :
    part <:+: (Json.array items).prettyText level := by
  obtain ⟨item, rest, rfl⟩ := List.exists_cons_of_ne_nil filled
  change _ <:+: '[' :: prettyItems (level + 1) (item :: rest) ++ newLine level ++ [']']
  rw [List.append_assoc]
  exact bracketed inside '[' _

theorem objectPretty {part : List Char} {members : List (String × Json)} (level : Nat)
    (filled : members ≠ []) (inside : part <:+: prettyMembers (level + 1) members) :
    part <:+: (Json.object members).prettyText level := by
  obtain ⟨member, rest, rfl⟩ := List.exists_cons_of_ne_nil filled
  change _ <:+: '\x7b' :: prettyMembers (level + 1) (member :: rest) ++ newLine level ++ ['\x7d']
  rw [List.append_assoc]
  exact bracketed inside '\x7b' _

theorem insideCompact {inner json : Json} (inside : Inside inner json) :
    inner.compactText <:+: json.compactText := by
  induction inside with
  | here => exact List.infix_rfl
  | item listed _ ih => exact arrayCompact (ih.trans (itemCompact listed))
  | @member _ name json listed _ ih =>
    have behind : json.compactText <:+: stringText name ++ ':' :: json.compactText :=
      ((List.suffix_cons _ _).trans (List.suffix_append _ _)).isInfix
    exact objectCompact ((ih.trans behind).trans (memberCompact listed))

theorem insidePretty {inner json : Json} (inside : Inside inner json) (level : Nat) :
    ∃ deeper, inner.prettyText deeper <:+: json.prettyText level := by
  induction inside generalizing level with
  | here => exact ⟨level, List.infix_rfl⟩
  | item listed _ ih =>
    obtain ⟨deeper, found⟩ := ih (level + 1)
    exact ⟨deeper, arrayPretty level (List.ne_nil_of_mem listed)
      (found.trans (itemPretty listed (level + 1)))⟩
  | @member _ name json listed _ ih =>
    obtain ⟨deeper, found⟩ := ih (level + 1)
    have behind : json.prettyText (level + 1) <:+:
        stringText name ++ ':' :: ' ' :: json.prettyText (level + 1) :=
      ((List.suffix_cons _ _).trans ((List.suffix_cons _ _).trans (List.suffix_append _ _))).isInfix
    exact ⟨deeper, objectPretty level (List.ne_nil_of_mem listed)
      ((found.trans behind).trans (memberPretty listed (level + 1)))⟩

end QueryTree.Json
