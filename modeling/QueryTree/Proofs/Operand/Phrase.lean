import QueryTree.Proofs.Operand.Formula
import QueryTree.Proofs.Value.Wording

/-! How operations over comparisons are phrased. Brackets that hold a single part are left out and
empty connectives are words, and yet a phrase can be read off every text that it starts. -/
namespace QueryTree

open Text (Cancels)

inductive Junction where
  | and
  | or
  deriving DecidableEq, Repr

def Junction.separator : Junction → List Char
  | .and => [' ', 'A', 'N', 'D', ' ']
  | .or => [' ', 'O', 'R', ' ']

inductive Phrase where
  | comparison (field : Word) (comparison : Comparison) (literal : Wording)
  | truth (b : Bool)
  | negation (parts : List Phrase)
  | junction (j : Junction) (first second : Phrase) (others : List Phrase)

def EndsPhrase (rest : List Char) : Prop :=
  rest = [] ∨ (∃ after, rest = ')' :: after) ∨ ∃ (j : Junction) (after : List Char),
    rest = j.separator ++ after

theorem endsPhraseBracket (rest : List Char) : EndsPhrase (')' :: rest) := .inr (.inl ⟨rest, rfl⟩)

theorem endsPhraseSeparator (j : Junction) (rest : List Char) : EndsPhrase (j.separator ++ rest) :=
  .inr (.inr ⟨j, rest, rfl⟩)

theorem EndsPhrase.literal {rest : List Char} (ends : EndsPhrase rest) : EndsLiteral rest := by
  rcases ends with rfl | ⟨after, rfl⟩ | ⟨j, after, rfl⟩
  · exact Text.stopsAtNil
  · exact Text.stopsAtCons rfl
  · cases j <;> exact Text.stopsAtCons rfl

theorem keywordCancels {c d : Comparison} {rest after : List Char}
    (same : c.keyword.toList ++ ' ' :: rest = d.keyword.toList ++ ' ' :: after) :
    c = d ∧ rest = after := by
  cases c <;> cases d <;> simp_all [Comparison.keyword, Comparison.symbol]

theorem keywordNoJunction {c : Comparison} {j : Junction} {rest after : List Char} :
    ' ' :: c.keyword.toList ++ rest ≠ j.separator ++ after := by
  cases c <;> cases j <;> simp [Comparison.keyword, Comparison.symbol, Junction.separator]

theorem separatorCancels {j k : Junction} {rest after : List Char}
    (same : j.separator ++ rest = k.separator ++ after) : j = k ∧ rest = after := by
  cases j <;> cases k <;> simp_all [Junction.separator]

namespace Phrase

def truthWord (b : Bool) : Word :=
  if b then ⟨['T', 'R', 'U', 'E'], List.cons_ne_nil _ _, plainLetters rfl⟩
  else ⟨['F', 'A', 'L', 'S', 'E'], List.cons_ne_nil _ _, plainLetters rfl⟩

def notWord : Word := ⟨['N', 'O', 'T'], List.cons_ne_nil _ _, plainLetters rfl⟩

mutual

def write : Phrase → List Char
  | .comparison field c literal => field.letters ++ ' ' :: c.keyword.toList ++ ' ' :: literal.write
  | .truth b => (truthWord b).letters
  | .negation parts => notWord.letters ++ [' ', '('] ++ writeParts parts ++ [')']
  | .junction j first second others =>
    '(' :: first.write ++ j.separator ++ second.write ++ writeOthers j others ++ [')']

def writeParts : List Phrase → List Char
  | [] => []
  | first :: others => first.write ++ writeOthers .and others

def writeOthers (j : Junction) : List Phrase → List Char
  | [] => []
  | part :: rest => j.separator ++ part.write ++ writeOthers j rest

end

theorem writeOthersSeparated (j : Junction) (parts : List Phrase) :
    writeOthers j parts = Text.separated j.separator write parts := by
  induction parts with
  | nil => rfl
  | cons part rest ih => simp [writeOthers, Text.separated, ih]

theorem writePartsJoined (parts : List Phrase) :
    writeParts parts = Text.joined Junction.and.separator write parts := by
  cases parts with
  | nil => rfl
  | cons first others => rw [writeParts, writeOthersSeparated, Text.joined]

theorem firstNoBracket (phrase : Phrase) (rest after : List Char) :
    phrase.write ++ rest ≠ ')' :: after := by
  cases phrase with
  | comparison field c literal =>
    rw [write, List.append_assoc, List.append_assoc]
    exact field.noMarkFirst _ rfl
  | truth b => exact (truthWord b).noMarkFirst rest rfl
  | negation parts =>
    rw [write, List.append_assoc, List.append_assoc, List.append_assoc]
    exact notWord.noMarkFirst _ rfl
  | junction j first second others =>
    intro same
    exact absurd (List.cons.inj same).1 (by decide)

theorem wordNoJunction {word : Word} {j : Junction} {first second : Phrase} {others : List Phrase}
    {rest after : List Char} :
    word.letters ++ rest ≠ (junction j first second others).write ++ after :=
  word.noMarkFirst rest rfl

theorem comparisonStart {field : Word} {c : Comparison} {literal : Wording} {rest : List Char} :
    (comparison field c literal).write ++ rest =
      field.letters ++ (' ' :: c.keyword.toList ++ ' ' :: (literal.write ++ rest)) := by
  simp [write]

theorem comparisonNoTruth {field : Word} {c : Comparison} {literal : Wording} {b : Bool}
    {rest after : List Char} (ends : EndsPhrase after) :
    (comparison field c literal).write ++ rest ≠ (truth b).write ++ after := by
  intro same
  rw [comparisonStart] at same
  obtain ⟨_, later⟩ := Word.cancels (Text.stopsAtCons rfl) ends.literal.mark same
  rcases ends with rfl | ⟨more, rfl⟩ | ⟨j, more, rfl⟩
  · contradiction
  · exact absurd (List.cons.inj later).1 (by decide)
  · exact keywordNoJunction later

theorem comparisonNoNegation {field : Word} {c : Comparison} {literal : Wording}
    {parts : List Phrase} {rest after : List Char} :
    (comparison field c literal).write ++ rest ≠ (negation parts).write ++ after := by
  intro same
  rw [comparisonStart, write, List.append_assoc, List.append_assoc, List.append_assoc] at same
  obtain ⟨_, later⟩ := Word.cancels (Text.stopsAtCons rfl)
    (Text.stopsAtCons rfl) same
  cases c <;> simp [Comparison.keyword, Comparison.symbol] at later

theorem comparisonNoJunction {field : Word} {c : Comparison} {literal : Wording} {j : Junction}
    {first second : Phrase} {others : List Phrase} {rest after : List Char} :
    (comparison field c literal).write ++ rest ≠
      (junction j first second others).write ++ after := by
  rw [comparisonStart]
  exact wordNoJunction

theorem truthNoNegation {b : Bool} {parts : List Phrase} {rest after : List Char} :
    (truth b).write ++ rest ≠ (negation parts).write ++ after := by
  intro same
  cases b <;> exact absurd (List.cons.inj same).1 (by decide)

theorem negationNoJunction {parts : List Phrase} {j : Junction} {first second : Phrase}
    {others : List Phrase} {rest after : List Char} :
    (negation parts).write ++ rest ≠ (junction j first second others).write ++ after := by
  rw [write, List.append_assoc, List.append_assoc, List.append_assoc]
  exact wordNoJunction

theorem comparisonCancels {field other : Word} {c d : Comparison} {literal value : Wording}
    {rest after : List Char} (ends : EndsPhrase rest) (endsOther : EndsPhrase after)
    (same : (comparison field c literal).write ++ rest =
      (comparison other d value).write ++ after) :
    comparison field c literal = comparison other d value ∧ rest = after := by
  rw [comparisonStart, comparisonStart] at same
  obtain ⟨rfl, later⟩ := Word.cancels (Text.stopsAtCons rfl)
    (Text.stopsAtCons rfl) same
  obtain ⟨rfl, literals⟩ := keywordCancels (List.cons.inj later).2
  obtain ⟨rfl, rests⟩ := Wording.cancels literal value rest after ends.literal endsOther.literal
    literals
  exact ⟨rfl, rests⟩

/- Parts lie in phrases at any depth: the induction is in one part with the list of the parts. -/
mutual

theorem cancels : (phrase : Phrase) → Cancels EndsPhrase write phrase
  | .comparison field c literal => by
    intro b rest after ends endsOther same
    cases b with
    | comparison other d value => exact comparisonCancels ends endsOther same
    | truth b => exact absurd same (comparisonNoTruth endsOther)
    | negation parts => exact absurd same comparisonNoNegation
    | junction j first second others => exact absurd same comparisonNoJunction
  | .truth b => by
    intro b rest after ends endsOther same
    cases b with
    | comparison other d value => exact absurd same.symm (comparisonNoTruth ends)
    | truth b =>
      obtain ⟨words, rests⟩ := Word.cancels ends.literal.mark endsOther.literal.mark same
      refine ⟨?_, rests⟩
      rename_i a
      cases a <;> cases b <;> simp_all [truthWord]
    | negation parts => exact absurd same truthNoNegation
    | junction j first second others => exact absurd same wordNoJunction
  | .negation parts => by
    intro b rest after ends endsOther same
    cases b with
    | comparison other d value => exact absurd same.symm comparisonNoNegation
    | truth b => exact absurd same.symm truthNoNegation
    | negation others =>
      simp only [write, writePartsJoined, List.append_assoc, List.append_cancel_left_eq,
        List.cons_append, List.nil_append, List.cons.injEq, true_and] at same
      obtain ⟨rfl, rests⟩ := Text.joinedCancels (by decide) endsPhraseBracket
        (endsPhraseSeparator .and) firstNoBracket (cancelsAll parts) same
      exact ⟨rfl, rests⟩
    | junction j first second others => exact absurd same negationNoJunction
  | .junction j head next others => by
    intro b rest after ends endsOther same
    cases b with
    | comparison other d value => exact absurd same.symm comparisonNoJunction
    | truth b => exact absurd same.symm wordNoJunction
    | negation parts => exact absurd same.symm negationNoJunction
    | junction k first second parts =>
      simp only [write, writeOthersSeparated, List.append_assoc, List.cons_append, List.nil_append,
        List.cons.injEq, true_and] at same
      obtain ⟨rfl, afterFirst⟩ := cancels head first _ _ (endsPhraseSeparator j _)
        (endsPhraseSeparator k _) same
      obtain ⟨rfl, afterSeparator⟩ := separatorCancels afterFirst
      have follows : ∀ parts rest, EndsPhrase (Text.separated j.separator write parts ++
          ')' :: rest) := Text.separatedFollows endsPhraseBracket (endsPhraseSeparator j)
      obtain ⟨rfl, afterSecond⟩ := cancels next second _ _ (follows others rest)
        (follows parts after) afterSeparator
      obtain ⟨rfl, rests⟩ := Text.separatedCancels (by cases j <;> decide) endsPhraseBracket
        (endsPhraseSeparator j) (cancelsAll others) afterSecond
      exact ⟨rfl, rests⟩

theorem cancelsAll : (parts : List Phrase) → ∀ part ∈ parts, Cancels EndsPhrase write part
  | [] => by
    intro part inside
    cases inside
  | first :: others => by
    intro part inside
    rcases List.mem_cons.mp inside with same | later
    · rw [same]
      exact cancels first
    · exact cancelsAll others part later

end

theorem writeInjective {phrase other : Phrase} (same : phrase.write = other.write) :
    phrase = other :=
  (cancels phrase other [] [] (.inl rfl) (.inl rfl) (by rw [same])).1

mutual

def formula : Phrase → Formula
  | .comparison field c literal =>
    .atom ⟨String.ofList field.letters, c, String.ofList literal.write⟩
  | .truth true => .all []
  | .truth false => .any []
  | .negation parts => .negation (.ofAll (formulas parts))
  | .junction .and first second others => .all (first.formula :: second.formula :: formulas others)
  | .junction .or first second others => .any (first.formula :: second.formula :: formulas others)

def formulas : List Phrase → List Formula
  | [] => []
  | part :: rest => part.formula :: formulas rest

end

def ofConnective : Connective → List Phrase → Phrase
  | .and, [] => .truth true
  | .or, [] => .truth false
  | .not, [] => .negation [.truth true]
  | .not, parts => .negation parts
  | _, [part] => part
  | .and, first :: second :: others => .junction .and first second others
  | .or, first :: second :: others => .junction .or first second others

theorem ofConnectiveFormula (c : Connective) (parts : List Phrase) :
    (ofConnective c parts).formula = Formula.ofConnective c (formulas parts) := by
  match c, parts with
  | .and, [] => rfl
  | .or, [] => rfl
  | .not, [] => rfl
  | .and, [part] => rfl
  | .or, [part] => rfl
  | .not, [part] => rfl
  | .and, first :: second :: others => rfl
  | .or, first :: second :: others => rfl
  | .not, first :: second :: others => rfl

theorem textsJoined {separator : Junction} {keyword : String} {texts : List String}
    {parts : List Phrase} (spelled : keyword.toList = separator.separator)
    (same : texts.map String.toList = parts.map write) :
    (keyword.intercalate texts).toList = Text.joined separator.separator write parts := by
  rw [String.toList_intercalate, same, spelled, Text.joinedIntercalate]

theorem junctionText {c : Connective} {j : Junction} {text next : String} {texts : List String}
    {first second : Phrase} {others : List Phrase}
    (spelled : (" " ++ c.keyword ++ " ").toList = j.separator)
    (same : (text :: next :: texts).map String.toList = (first :: second :: others).map write) :
    ("(" ++ (" " ++ c.keyword ++ " ").intercalate (text :: next :: texts) ++ ")").toList =
      (junction j first second others).write := by
  rw [String.toList_append, String.toList_append, textsJoined spelled same]
  simp [write, writeOthersSeparated, Text.joined, Text.separated]

theorem negationText {text : String} {texts : List String} {first : Phrase} {others : List Phrase}
    (same : (text :: texts).map String.toList = (first :: others).map write) :
    (Operation.write (.connective .not) (text :: texts)).toList =
      (negation (first :: others)).write := by
  have spelled : " AND ".toList = Junction.and.separator := rfl
  have inner := textsJoined spelled same
  rw [Operation.write, String.toList_append, String.toList_append, inner, write, writePartsJoined]
  · rfl
  · exact List.cons_ne_nil _ _

theorem ofConnectiveText {c : Connective} {texts : List String} {parts : List Phrase}
    (same : texts.map String.toList = parts.map write) :
    (Operation.write (.connective c) texts).toList = (ofConnective c parts).write := by
  cases texts with
  | nil =>
    obtain rfl : parts = [] := List.map_eq_nil_iff.mp same.symm
    cases c <;> rfl
  | cons text texts =>
    cases parts with
    | nil => contradiction
    | cons first others =>
      obtain ⟨head, later⟩ := List.cons.inj same
      cases texts with
      | nil =>
        obtain rfl : others = [] := List.map_eq_nil_iff.mp later.symm
        cases c with
        | and => exact head
        | or => exact head
        | not => exact negationText same
      | cons next texts =>
        cases others with
        | nil => contradiction
        | cons second others =>
          cases c with
          | and => exact junctionText (c := .and) (j := .and) rfl same
          | or => exact junctionText (c := .or) (j := .or) rfl same
          | not => exact negationText same

end Phrase

end QueryTree
