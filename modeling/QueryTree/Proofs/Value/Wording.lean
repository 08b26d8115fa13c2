import QueryTree.Value.Text
import QueryTree.Proofs.Text.Cancel

/-! How literals are worded: a bare word, a text in quotes, or a row of literals in brackets. The
wording of a literal can be read off every text that it starts. -/
namespace QueryTree

open Text (Cancels StopsAt)

def isMark (c : Char) : Bool := c = ' ' || c = ')' || c = ',' || c = '(' || c = '\''

structure Word where
  letters : List Char
  filled : letters ≠ []
  plain : ∀ c ∈ letters, isMark c = false

theorem plainLetters {letters : List Char} (plain : letters.all (fun c => !isMark c) = true) :
    ∀ c ∈ letters, isMark c = false := by
  intro c inside
  have plainHere := List.all_eq_true.mp plain c inside
  rwa [Bool.not_eq_true'] at plainHere

def EndsLiteral (rest : List Char) : Prop := StopsAt (fun c => c = ' ' || c = ')' || c = ',') rest

theorem EndsLiteral.mark {rest : List Char} (ends : EndsLiteral rest) : StopsAt isMark rest := by
  intro c first
  have := ends c first
  simp_all [isMark]

theorem EndsLiteral.noQuote {rest : List Char} (ends : EndsLiteral rest) :
    rest.head? ≠ some '\'' := by
  intro first
  have := ends '\'' first
  contradiction

theorem Word.noMarkFirst (word : Word) (rest : List Char) {mark : Char} {after : List Char}
    (marks : isMark mark = true) : word.letters ++ rest ≠ mark :: after := by
  obtain ⟨letters, filled, plain⟩ := word
  cases letters with
  | nil => exact absurd rfl filled
  | cons c letters =>
    intro same
    rw [← (List.cons.inj same).1, plain c List.mem_cons_self] at marks
    contradiction

theorem Word.cancels {word other : Word} {rest after : List Char}
    (stop : StopsAt isMark rest) (stopOther : StopsAt isMark after)
    (same : word.letters ++ rest = other.letters ++ after) : word = other ∧ rest = after := by
  obtain ⟨letters, rests⟩ := Text.wordCancels word.plain other.plain stop stopOther same
  cases word
  cases other
  exact ⟨by simpa using letters, rests⟩

inductive Wording where
  | bare (word : Word)
  | quoted (text : List Char)
  | row (items : List Wording)

namespace Wording

mutual

def write : Wording → List Char
  | .bare word => word.letters
  | .quoted text => '\'' :: Text.doubled '\'' text ++ ['\'']
  | .row items => '(' :: writeItems items ++ [')']

def writeItems : List Wording → List Char
  | [] => []
  | first :: others => first.write ++ writeOthers others

def writeOthers : List Wording → List Char
  | [] => []
  | item :: rest => [',', ' '] ++ item.write ++ writeOthers rest

end

theorem writeOthersSeparated (items : List Wording) :
    writeOthers items = Text.separated [',', ' '] write items := by
  induction items with
  | nil => rfl
  | cons item rest ih => simp [writeOthers, Text.separated, ih]

theorem writeItemsJoined (items : List Wording) :
    writeItems items = Text.joined [',', ' '] write items := by
  cases items with
  | nil => rfl
  | cons first others => rw [writeItems, writeOthersSeparated, Text.joined]

theorem firstNoBracket (wording : Wording) (rest after : List Char) :
    wording.write ++ rest ≠ ')' :: after := by
  intro same
  cases wording with
  | bare word => exact absurd same (word.noMarkFirst rest rfl)
  | quoted text => exact absurd (List.cons.inj same).1 (by decide)
  | row items => exact absurd (List.cons.inj same).1 (by decide)

/- The first character tells a bare word, a quote and a bracket apart. The induction is on the row in
which literals lie, in one part with the list of its items. -/
mutual

theorem cancels : (wording : Wording) → Cancels EndsLiteral write wording
  | .bare word => by
    intro b rest other ends endsOther same
    cases b with
    | bare word =>
      obtain ⟨rfl, rests⟩ := Word.cancels ends.mark endsOther.mark same
      exact ⟨rfl, rests⟩
    | quoted text => exact absurd same (word.noMarkFirst rest rfl)
    | row items => exact absurd same (word.noMarkFirst rest rfl)
  | .quoted text => by
    intro b rest other ends endsOther same
    cases b with
    | bare word => exact absurd same.symm (word.noMarkFirst other rfl)
    | quoted text =>
      simp only [write, List.cons_append, List.append_assoc, List.nil_append, List.cons.injEq,
        true_and] at same
      obtain ⟨rfl, rests⟩ := Text.doubledCancels ends.noQuote endsOther.noQuote same
      exact ⟨rfl, rests⟩
    | row items => exact absurd (List.cons.inj same).1 (by decide)
  | .row items => by
    intro b rest other ends endsOther same
    cases b with
    | bare word => exact absurd same.symm (word.noMarkFirst other rfl)
    | quoted text => exact absurd (List.cons.inj same).1 (by decide)
    | row others =>
      simp only [write, writeItemsJoined, List.cons_append, List.append_assoc, List.nil_append,
        List.cons.injEq, true_and] at same
      obtain ⟨rfl, rests⟩ := Text.joinedCancels (by decide) (fun _ => Text.stopsAtCons rfl)
        (fun _ => Text.stopsAtCons rfl) firstNoBracket (cancelsAll items) same
      exact ⟨rfl, rests⟩

theorem cancelsAll : (items : List Wording) → ∀ item ∈ items, Cancels EndsLiteral write item
  | [] => by
    intro item inside
    cases inside
  | first :: others => by
    intro item inside
    rcases List.mem_cons.mp inside with same | later
    · rw [same]
      exact cancels first
    · exact cancelsAll others item later

end

end Wording

theorem digitNoMark {c : Char} (digit : c.isDigit = true) : isMark c = false := by
  simp only [isMark, Bool.or_eq_false_iff, decide_eq_false_iff_not]
  refine ⟨⟨⟨⟨?_, ?_⟩, ?_⟩, ?_⟩, ?_⟩ <;> rintro rfl <;> contradiction

theorem digitsNoMark {n : Nat} : ∀ c ∈ Nat.toDigits 10 n, isMark c = false := by
  intro c inside
  exact digitNoMark (Nat.isDigit_of_mem_toDigits (by omega) (by omega) inside)

def Word.integer (n : Int) : Word where
  letters := Json.integerText n
  filled := by
    unfold Json.integerText
    split
    · exact List.cons_ne_nil _ _
    · exact Nat.toDigits_ne_nil
  plain := by
    intro c inside
    unfold Json.integerText at inside
    split at inside
    · rcases List.mem_cons.mp inside with rfl | digit
      · decide
      · exact digitsNoMark c digit
    · exact digitsNoMark c inside

theorem plainInside {layout : Decimal.Layout} {digits : List Char} {lead : Int} {c : Char}
    (whole : layout.pointZero = false) (inside : c ∈ layout.plain digits lead) :
    c ∈ digits ∨ c = '0' ∨ c = '.' := by
  unfold Decimal.Layout.plain at inside
  split at inside
  · simp only [List.cons_append, List.mem_cons, List.mem_append, List.mem_replicate] at inside
    rcases inside with rfl | rfl | ⟨_, rfl⟩ | digit
    · exact .inr (.inl rfl)
    · exact .inr (.inr rfl)
    · exact .inr (.inl rfl)
    · exact .inl digit
  · cases dropped : digits.drop (lead.toNat + 1) with
    | nil =>
      simp only [dropped, whole, Bool.false_eq_true, if_false, List.mem_append,
        List.mem_replicate] at inside
      rcases inside with taken | ⟨_, rfl⟩
      · exact .inl (List.mem_of_mem_take taken)
      · exact .inr (.inl rfl)
    | cons d fraction =>
      simp only [dropped, List.append_assoc, List.mem_append, List.mem_replicate,
        List.mem_cons] at inside
      rcases inside with taken | ⟨_, rfl⟩ | rfl | later
      · exact .inl (List.mem_of_mem_take taken)
      · exact .inr (.inl rfl)
      · exact .inr (.inr rfl)
      · rw [← List.mem_cons, ← dropped] at later
        exact .inl (List.mem_of_mem_drop later)

theorem plainFilled {layout : Decimal.Layout} {digits : List Char} {lead : Int}
    (whole : layout.pointZero = false) (filled : digits ≠ []) : layout.plain digits lead ≠ [] := by
  unfold Decimal.Layout.plain
  split
  · exact List.cons_ne_nil _ _
  · dsimp only
    split
    · rw [whole]
      cases digits with
      | nil => exact absurd rfl filled
      | cons d digits => simp
    · exact List.append_ne_nil_of_right_ne_nil _ (List.cons_ne_nil _ _)

def Word.float (x : Float) : Word where
  letters := (Value.floatLayout.render x).toList
  filled := by
    simp only [Decimal.Layout.render]
    split
    · decide
    · split
      · simp [Value.floatLayout]
      · simp only [String.toList_append, String.toList_ofList]
        exact List.append_ne_nil_of_right_ne_nil _ (plainFilled rfl Nat.toDigits_ne_nil)
  plain := by
    have sign : ∀ c ∈ (if Decimal.isNegative x then "-" else "").toList, isMark c = false := by
      split <;> exact plainLetters rfl
    simp only [Decimal.Layout.render]
    split
    · exact plainLetters rfl
    · split
      · intro c inside
        rw [String.toList_append, List.mem_append] at inside
        rcases inside with first | later
        · exact sign c first
        · exact plainLetters rfl c later
      · intro c inside
        rw [String.toList_append, String.toList_ofList, List.mem_append] at inside
        rcases inside with first | later
        · exact sign c first
        · rcases plainInside rfl later with digit | rfl | rfl
          · exact digitsNoMark c digit
          · decide
          · decide

namespace Value

def nullWord : Word := ⟨['N', 'U', 'L', 'L'], List.cons_ne_nil _ _, plainLetters rfl⟩

def boolWord : Bool → Word
  | true => ⟨['t', 'r', 'u', 'e'], List.cons_ne_nil _ _, plainLetters rfl⟩
  | false => ⟨['f', 'a', 'l', 's', 'e'], List.cons_ne_nil _ _, plainLetters rfl⟩

mutual

def wording : Value → Wording
  | .null => .bare nullWord
  | .bool b => .bare (boolWord b)
  | .int n => .bare (.integer n.toInt)
  | .float x => .bare (.float x)
  | .string s => .quoted s.toList
  | .date t => .quoted t.chars
  | .array items => .row (wordings items)
  | .object entries => .quoted (Json.compactText (.object (entriesToJson entries)))

def wordings : List Value → List Wording
  | [] => []
  | item :: rest => item.wording :: wordings rest

end

mutual

theorem textWorded : (value : Value) → value.text.toList = value.wording.write
  | .null => rfl
  | .bool true => rfl
  | .bool false => rfl
  | .int n => by simp [text, wording, Wording.write, Word.integer]
  | .float x => by simp [text, wording, Wording.write, Word.float]
  | .string s => by simp [text, wording, Wording.write, Text.quoted]
  | .date t => by simp [text, wording, Wording.write, Text.quoted, Time.Instant.text]
  | .array items => by simp [text, wording, Wording.write, itemsTextWorded items]
  | .object entries => by simp [text, wording, Wording.write, Text.quoted, Json.compact]

theorem itemsTextWorded : (items : List Value) →
    (itemsText items).toList = Wording.writeItems (wordings items)
  | [] => rfl
  | [item] => by
    simp [itemsText, wordings, Wording.writeItems, Wording.writeOthers, textWorded item]
  | first :: next :: others => by
    simp [itemsText, wordings, Wording.writeItems, Wording.writeOthers, textWorded first,
      itemsTextWorded (next :: others)]

end

end Value

end QueryTree
