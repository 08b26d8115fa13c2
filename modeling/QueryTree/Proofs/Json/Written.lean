import QueryTree.Proofs.Json.Spelling

/-! A written text is read back as a document that holds what was written, with nothing after it. -/
namespace QueryTree.Json

open Text (stopsAtCons stopsAtNil)

mutual

def Exact : Json → Prop
  | .integer n => -9223372036854775808 ≤ n ∧ n < UInt64.size
  | .real _ => False
  | .array items => ExactItems items
  | .object members => ExactMembers members
  | .null | .bool _ | .string _ => True

def ExactItems : List Json → Prop
  | [] => True
  | item :: rest => item.Exact ∧ ExactItems rest

def ExactMembers : List (String × Json) → Prop
  | [] => True
  | (_, value) :: rest => value.Exact ∧ ExactMembers rest

end

mutual

def spelling : Json → List Token
  | .null => [.null]
  | .bool b => [.bool b]
  | .integer n => [.number (.ofInteger n)]
  | .real x => tokens (realText x)
  | .string s => [.text (.ofChars s.toList)]
  | .array items => .openArray :: spellingItems items ++ [.closeArray]
  | .object members => .openObject :: spellingMembers members ++ [.closeObject]

def spellingItems : List Json → List Token
  | [] => []
  | [item] => item.spelling
  | item :: next :: rest => item.spelling ++ .comma :: spellingItems (next :: rest)

def spellingMembers : List (String × Json) → List Token
  | [] => []
  | [(name, value)] => .text (.ofChars name.toList) :: .colon :: value.spelling
  | (name, value) :: next :: rest =>
    .text (.ofChars name.toList) :: .colon :: value.spelling ++
      .comma :: spellingMembers (next :: rest)

end

theorem tokensSpace {c : Char} (space : isSpace c = true) (rest : List Char) :
    tokens (c :: rest) = tokens rest := by
  rw [tokens, if_pos space]

theorem tokensStart {c : Char} {rest after : List Char} {t : Token} (start : isSpace c = false)
    (first : token c rest = (t, after)) : tokens (c :: rest) = t :: tokens after := by
  rw [tokens, if_neg (by simp [start]), first]

theorem tokensBlanks (count : Nat) (rest : List Char) :
    tokens (List.replicate count ' ' ++ rest) = tokens rest := by
  induction count with
  | zero => rfl
  | succ count ih =>
    rw [List.replicate_succ, List.cons_append, tokensSpace (by rfl)]
    exact ih

theorem tokensNewLine (level : Nat) (rest : List Char) :
    tokens (newLine level ++ rest) = tokens rest := by
  rw [newLine, List.cons_append, tokensSpace (by rfl), tokensBlanks]

theorem tokensString (s : String) (rest : List Char) :
    tokens (stringText s ++ rest) = .text (.ofChars s.toList) :: tokens rest := by
  have split := splitWritten s.toList rest
  have first : token '"' (s.toList.flatMap escapeChar ++ '"' :: rest) =
      (.text (.ofChars s.toList), rest) := by
    simp only [token, split]
  simp only [stringText, List.cons_append, List.append_assoc, List.nil_append]
  exact tokensStart rfl first

theorem tokensInteger (n : Int) {rest : List Char} (ends : EndsNumber rest) :
    tokens (integerText n ++ rest) = .number (.ofInteger n) :: tokens rest := by
  cases written : integerText n with
  | nil =>
    unfold integerText at written
    split at written
    · contradiction
    · exact absurd written Nat.toDigits_ne_nil
  | cons c tail =>
    obtain ⟨start, first⟩ := integerToken n ends written
    exact tokensStart start first

theorem endsComma (rest : List Char) : EndsNumber (',' :: rest) := stopsAtCons rfl

theorem endsBracket (rest : List Char) : EndsNumber (']' :: rest) := stopsAtCons rfl

theorem endsBrace (rest : List Char) : EndsNumber ('\x7d' :: rest) := stopsAtCons rfl

theorem endsLine (level : Nat) (rest : List Char) : EndsNumber (newLine level ++ rest) :=
  stopsAtCons rfl

mutual

theorem tokensCompact : (json : Json) → json.Exact → (rest : List Char) → EndsNumber rest →
    tokens (json.compactText ++ rest) = json.spelling ++ tokens rest
  | .null, _, rest, _ => tokensStart rfl rfl
  | .bool true, _, rest, _ => tokensStart rfl rfl
  | .bool false, _, rest, _ => tokensStart rfl rfl
  | .integer n, _, rest, ends => tokensInteger n ends
  | .string s, _, rest, _ => tokensString s rest
  | .array items, exact, rest, _ => by
    have inside := tokensCompactItems items exact (']' :: rest) (endsBracket rest)
    simp only [compactText, List.cons_append, List.append_assoc, List.nil_append]
    rw [tokensStart (by rfl) (by rfl), inside, tokensStart (by rfl) (by rfl)]
    simp [spelling]
  | .object members, exact, rest, _ => by
    have inside := tokensCompactMembers members exact ('\x7d' :: rest) (endsBrace rest)
    simp only [compactText, List.cons_append, List.append_assoc, List.nil_append]
    rw [tokensStart (by rfl) (by rfl), inside, tokensStart (by rfl) (by rfl)]
    simp [spelling]

theorem tokensCompactItems : (items : List Json) → ExactItems items → (rest : List Char) →
    EndsNumber rest → tokens (compactItems items ++ rest) = spellingItems items ++ tokens rest
  | [], _, rest, _ => rfl
  | [item], ⟨exact, _⟩, rest, ends => tokensCompact item exact rest ends
  | item :: next :: more, ⟨exact, others⟩, rest, ends => by
    have later := tokensCompactItems (next :: more) others rest ends
    have first := tokensCompact item exact (',' :: (compactItems (next :: more) ++ rest))
      (endsComma _)
    rw [tokensStart (c := ',') rfl rfl, later] at first
    simpa [compactItems, spellingItems] using first

theorem tokensCompactMembers : (members : List (String × Json)) → ExactMembers members →
    (rest : List Char) → EndsNumber rest →
    tokens (compactMembers members ++ rest) = spellingMembers members ++ tokens rest
  | [], _, rest, _ => rfl
  | [(name, value)], ⟨exact, _⟩, rest, ends => by
    have first := tokensCompact value exact rest ends
    rw [compactMembers, List.append_assoc, tokensString, List.cons_append,
      tokensStart (by rfl) (by rfl), first]
    rfl
  | (name, value) :: next :: more, ⟨exact, others⟩, rest, ends => by
    have later := tokensCompactMembers (next :: more) others rest ends
    have first := tokensCompact value exact (',' :: (compactMembers (next :: more) ++ rest))
      (endsComma _)
    rw [tokensStart (c := ',') rfl rfl, later] at first
    simp only [compactMembers, List.append_assoc, List.cons_append]
    rw [tokensString, tokensStart (by rfl) (by rfl), first]
    simp [spellingMembers]

end

mutual

theorem tokensPretty : (json : Json) → json.Exact → (level : Nat) → (rest : List Char) →
    EndsNumber rest → tokens (json.prettyText level ++ rest) = json.spelling ++ tokens rest
  | .null, _, _, rest, _ => tokensStart rfl rfl
  | .bool true, _, _, rest, _ => tokensStart rfl rfl
  | .bool false, _, _, rest, _ => tokensStart rfl rfl
  | .integer n, _, _, rest, ends => tokensInteger n ends
  | .string s, _, _, rest, _ => tokensString s rest
  | .array [], _, _, rest, _ => by
    simp only [prettyText, List.cons_append, List.nil_append]
    rw [tokensStart (by rfl) (by rfl), tokensStart (by rfl) (by rfl)]
    rfl
  | .object [], _, _, rest, _ => by
    simp only [prettyText, List.cons_append, List.nil_append]
    rw [tokensStart (by rfl) (by rfl), tokensStart (by rfl) (by rfl)]
    rfl
  | .array (item :: items), exact, level, rest, _ => by
    have inside := tokensPrettyItems (item :: items) exact (level + 1)
      (newLine level ++ ']' :: rest) (endsLine level _)
    simp only [prettyText, List.cons_append, List.append_assoc, List.nil_append]
    rw [tokensStart (by rfl) (by rfl), inside, tokensNewLine, tokensStart (by rfl) (by rfl)]
    simp [spelling]
  | .object (member :: members), exact, level, rest, _ => by
    have inside := tokensPrettyMembers (member :: members) exact (level + 1)
      (newLine level ++ '\x7d' :: rest) (endsLine level _)
    simp only [prettyText, List.cons_append, List.append_assoc, List.nil_append]
    rw [tokensStart (by rfl) (by rfl), inside, tokensNewLine, tokensStart (by rfl) (by rfl)]
    simp [spelling]

theorem tokensPrettyItems : (items : List Json) → ExactItems items → (level : Nat) →
    (rest : List Char) → EndsNumber rest →
    tokens (prettyItems level items ++ rest) = spellingItems items ++ tokens rest
  | [], _, _, rest, _ => rfl
  | [item], ⟨exact, _⟩, level, rest, ends => by
    rw [prettyItems, List.append_assoc, tokensNewLine]
    exact tokensPretty item exact level rest ends
  | item :: next :: more, ⟨exact, others⟩, level, rest, ends => by
    have later := tokensPrettyItems (next :: more) others level rest ends
    have first := tokensPretty item exact level (',' :: (prettyItems level (next :: more) ++ rest))
      (endsComma _)
    rw [tokensStart (c := ',') rfl rfl, later] at first
    simp only [prettyItems, List.append_assoc, List.cons_append]
    rw [tokensNewLine, first]
    simp [spellingItems]

theorem tokensPrettyMembers : (members : List (String × Json)) → ExactMembers members →
    (level : Nat) → (rest : List Char) → EndsNumber rest →
    tokens (prettyMembers level members ++ rest) = spellingMembers members ++ tokens rest
  | [], _, _, rest, _ => rfl
  | [(name, value)], ⟨exact, _⟩, level, rest, ends => by
    have first := tokensPretty value exact level rest ends
    simp only [prettyMembers, List.append_assoc, List.cons_append]
    rw [tokensNewLine, tokensString, tokensStart (by rfl) (by rfl), tokensSpace (by rfl), first]
    rfl
  | (name, value) :: next :: more, ⟨exact, others⟩, level, rest, ends => by
    have later := tokensPrettyMembers (next :: more) others level rest ends
    have first := tokensPretty value exact level
      (',' :: (prettyMembers level (next :: more) ++ rest)) (endsComma _)
    rw [tokensStart (c := ',') rfl rfl, later] at first
    simp only [prettyMembers, List.append_assoc, List.cons_append]
    rw [tokensNewLine, tokensString, tokensStart (by rfl) (by rfl), tokensSpace (by rfl), first]
    simp [spellingMembers]

end

theorem spellingStarts {json : Json} (exact : json.Exact) :
    ∃ t more, json.spelling = t :: more ∧ t ≠ .closeArray := by
  cases json with
  | real x => exact exact.elim
  | _ => exact ⟨_, _, rfl, nofun⟩

theorem spellingItemsStarts {item : Json} (rest : List Json) (exact : item.Exact) :
    ∃ t more, spellingItems (item :: rest) = t :: more ∧ t ≠ .closeArray := by
  obtain ⟨t, more, starts, other⟩ := spellingStarts exact
  cases rest with
  | nil => exact ⟨t, more, starts, other⟩
  | cons next rest => exact ⟨t, _, by rw [spellingItems, starts]; rfl, other⟩

theorem stepFirstItem {t : Token} (other : t ≠ .closeArray) (outer : List Frame) :
    step (.firstItem outer) t = step (.value (.array [] :: outer)) t := by
  cases t <;> first | rfl | contradiction

theorem spellingMembersFirst (member : String × Json) (rest : List (String × Json))
    (outer : List Frame) :
    (spellingMembers (member :: rest)).foldl step (.firstKey outer) =
      (spellingMembers (member :: rest)).foldl step (.key [] outer) := by
  cases rest <;> rfl

mutual

theorem valueRead : (json : Json) → json.Exact →
    ∃ node : Node, node.Holds json ∧
      ∀ outer, json.spelling.foldl step (.value outer) = place node outer
  | .null, _ => ⟨_, .null, fun _ => rfl⟩
  | .bool b, _ => ⟨_, .bool b, fun _ => rfl⟩
  | .integer n, ⟨low, high⟩ => ⟨_, .integer (integerRead low high), fun _ => rfl⟩
  | .string s, _ => ⟨_, .string (readWritten s), fun _ => rfl⟩
  | .array [], _ => ⟨_, .array .closed, fun _ => rfl⟩
  | .object [], _ => ⟨_, .object .closed, fun _ => rfl⟩
  | .array (item :: rest), exact => by
    obtain ⟨nodes, held, read⟩ := itemsRead (item :: rest) (List.cons_ne_nil _ _) exact
    obtain ⟨t, more, starts, other⟩ := spellingItemsStarts rest exact.1
    refine ⟨.array (.ofList .closed nodes), .array held, fun outer => ?_⟩
    have inside := read [] outer
    rw [starts, List.foldl_cons, ← stepFirstItem other] at inside
    simp only [spelling, List.cons_append, List.foldl_cons, List.foldl_append, starts]
    rw [step, Token.startValue, inside]
    simp [step]
  | .object (member :: rest), exact => by
    obtain ⟨nodes, held, read⟩ := membersRead (member :: rest) (List.cons_ne_nil _ _) exact
    refine ⟨.object (.ofList .closed nodes), .object held, fun outer => ?_⟩
    have inside := read [] outer
    rw [← spellingMembersFirst] at inside
    simp only [spelling, List.cons_append, List.foldl_cons, List.foldl_append]
    rw [step, Token.startValue, inside]
    simp [step]

theorem itemsRead : (items : List Json) → items ≠ [] → ExactItems items →
    ∃ nodes, Items.Holds (.ofList .closed nodes) items ∧
      ∀ before outer, (spellingItems items).foldl step (.value (.array before :: outer)) =
        .afterItem (nodes.reverse ++ before) outer
  | [], filled, _ => absurd rfl filled
  | [item], _, ⟨exact, _⟩ => by
    obtain ⟨node, held, read⟩ := valueRead item exact
    exact ⟨[node], .cons held .closed, fun before outer => read _⟩
  | item :: next :: rest, _, ⟨exact, others⟩ => by
    obtain ⟨node, held, read⟩ := valueRead item exact
    obtain ⟨nodes, heldLater, readLater⟩ := itemsRead (next :: rest) (List.cons_ne_nil _ _) others
    refine ⟨node :: nodes, .cons held heldLater, fun before outer => ?_⟩
    have later := readLater (node :: before) outer
    rw [spellingItems, List.foldl_append, read, List.foldl_cons]
    simpa [place, step] using later

theorem membersRead : (members : List (String × Json)) → members ≠ [] → ExactMembers members →
    ∃ nodes, Members.Holds (.ofList .closed nodes) members ∧
      ∀ before outer, (spellingMembers members).foldl step (.key before outer) =
        .afterMember (nodes.reverse ++ before) outer
  | [], filled, _ => absurd rfl filled
  | [(name, value)], _, ⟨exact, _⟩ => by
    obtain ⟨node, held, read⟩ := valueRead value exact
    exact ⟨[(.ofChars name.toList, node)], .cons (readWritten name) held .closed,
      fun before outer => read _⟩
  | (name, value) :: next :: rest, _, ⟨exact, others⟩ => by
    obtain ⟨node, held, read⟩ := valueRead value exact
    obtain ⟨nodes, heldLater, readLater⟩ := membersRead (next :: rest) (List.cons_ne_nil _ _) others
    refine ⟨(.ofChars name.toList, node) :: nodes, .cons (readWritten name) held heldLater,
      fun before outer => ?_⟩
    have later := readLater ((.ofChars name.toList, node) :: before) outer
    simp only [spellingMembers, List.cons_append, List.foldl_cons, List.foldl_append, step, read]
    simpa [place, step] using later

end

structure Document.Holds (document : Document) (json : Json) : Prop where
  root : document.root.Holds json
  ended : document.more = false

theorem spelledHolds {json : Json} {text : String} (exact : json.Exact)
    (spelled : tokens text.toList = json.spelling) : (Document.ofText text).Holds json := by
  obtain ⟨node, held, read⟩ := valueRead json exact
  have same : Document.ofText text = ⟨node, false⟩ := by
    rw [Document.ofText, spelled, read]
    rfl
  rw [same]
  exact ⟨held, rfl⟩

theorem compactHolds {json : Json} (exact : json.Exact) :
    (Document.ofText json.compact).Holds json := by
  have spelled := tokensCompact json exact [] stopsAtNil
  exact spelledHolds exact (by simpa [compact, tokens] using spelled)

theorem prettyHolds {json : Json} (exact : json.Exact) :
    (Document.ofText json.pretty).Holds json := by
  have spelled := tokensPretty json exact 0 [] stopsAtNil
  exact spelledHolds exact (by simpa [pretty, tokens] using spelled)

end QueryTree.Json
