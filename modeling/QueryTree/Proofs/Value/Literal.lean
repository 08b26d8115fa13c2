import QueryTree.Proofs.Json.Spelling
import QueryTree.Proofs.Value.Wording

/-! What the text of a literal tells: the value, up to dates and objects, which are written like the
strings of their own texts. -/
namespace QueryTree

namespace Text

def splitDoubled (mark : Char) : List Char → Option (List Char × List Char)
  | [] => none
  | [c] => if c = mark then some ([], []) else none
  | c :: d :: rest =>
    if c = mark then
      if d = mark then (splitDoubled mark rest).map fun (text, after) => (mark :: text, after)
      else some ([], d :: rest)
    else (splitDoubled mark (d :: rest)).map fun (text, after) => (c :: text, after)

def splitQuoted : List Char → Option (List Char × List Char)
  | '\'' :: rest => splitDoubled '\'' rest
  | _ => none

theorem splitOther {mark c : Char} (other : c ≠ mark) {text : List Char} (filled : text ≠ []) :
    splitDoubled mark (c :: text) =
      (splitDoubled mark text).map fun (text, after) => (c :: text, after) := by
  cases text with
  | nil => exact absurd rfl filled
  | cons d rest => rw [splitDoubled, if_neg other]

theorem splitDoubledBack {mark : Char} {rest : List Char} (stop : rest.head? ≠ some mark)
    (text : List Char) :
    splitDoubled mark (doubled mark text ++ mark :: rest) = some (text, rest) := by
  induction text with
  | nil =>
    cases rest with
    | nil => simp [doubled, splitDoubled]
    | cons d after =>
      have other : d ≠ mark := fun same => stop (by rw [same]; rfl)
      simp [doubled, splitDoubled, other]
  | cons c text ih =>
    by_cases same : c = mark
    · subst same
      simp [doubled, splitDoubled, ih]
    · simp only [doubled, if_neg same, List.cons_append]
      rw [splitOther same (by simp), ih]
      rfl

theorem splitQuotedBack (s : String) {rest : List Char} (stop : rest.head? ≠ some '\'') :
    splitQuoted ((quoted s).toList ++ rest) = some (s.toList, rest) := by
  have written : (quoted s).toList ++ rest = '\'' :: (doubled '\'' s.toList ++ '\'' :: rest) := by
    simp [quoted]
  rw [written, splitQuoted, splitDoubledBack stop]

end Text

theorem Json.integerTextInjective : Function.Injective Json.integerText := by
  intro m n same
  have noSign (k l : Nat) : '-' :: Nat.toDigits 10 k ≠ Nat.toDigits 10 l := by
    intro signed
    have digit := Json.digitsWritten l '-' (by rw [← signed]; exact List.mem_cons_self)
    contradiction
  have sizes {k l : Nat} (digits : Nat.toDigits 10 k = Nat.toDigits 10 l) : k = l := by
    rw [← Json.digitsValueWritten k, digits, Json.digitsValueWritten]
  unfold Json.integerText at same
  split at same <;> split at same
  · have := sizes (List.cons.inj same).2
    omega
  · exact absurd same (noSign _ _)
  · exact absurd same.symm (noSign _ _)
  · have := sizes same
    omega

theorem Word.integerInjective : Function.Injective Word.integer := fun _ _ same =>
  Json.integerTextInjective (congrArg Word.letters same)

theorem Word.integerNoLetter (n : Int) : ∀ c ∈ (Word.integer n).letters.head?, c = '-' ∨ c.isDigit := by
  intro c first
  have head := List.mem_of_mem_head? first
  unfold Word.integer Json.integerText at first head
  dsimp only at first head
  split at first
  · exact .inl (Option.some.inj first).symm
  · rename_i positive
    rw [if_neg positive] at head
    exact .inr (Nat.isDigit_of_mem_toDigits (by omega) (by omega) head)

theorem Word.integerNotNamed (n : Int) {word : Word} {c : Char}
    (letter : word.letters.head? = some c) (plain : c ≠ '-' ∧ c.isDigit = false) :
    Word.integer n ≠ word := by
  rintro rfl
  rcases Word.integerNoLetter n c letter with sign | digit
  · exact plain.1 sign
  · rw [plain.2] at digit
    contradiction

mutual

def Wording.grouping : Wording → Value
  | .row items => .array (Wording.groupings items)
  | _ => .null

def Wording.groupings : List Wording → List Value
  | [] => []
  | item :: rest => item.grouping :: Wording.groupings rest

end

namespace Value

mutual

def NoFloat : Value → Prop
  | .float _ => False
  | .array items => NoFloats items
  | _ => True

def NoFloats : List Value → Prop
  | [] => True
  | item :: rest => item.NoFloat ∧ NoFloats rest

end

mutual

def plain : Value → Value
  | .date t => .string t.text
  | .object entries => .string (Json.compact (.object (entriesToJson entries)))
  | .array items => .array (plains items)
  | v => v

def plains : List Value → List Value
  | [] => []
  | item :: rest => item.plain :: plains rest

end

mutual

def grouping : Value → Value
  | .array items => .array (groupings items)
  | _ => .null

def groupings : List Value → List Value
  | [] => []
  | item :: rest => item.grouping :: groupings rest

end

mutual

theorem groupingWorded : (v : Value) → v.grouping = v.wording.grouping
  | .array items => by rw [grouping, wording, Wording.grouping, groupingsWorded items]
  | .date _ | .object _ | .null | .bool _ | .int _ | .float _ | .string _ => rfl

theorem groupingsWorded : (items : List Value) →
    groupings items = Wording.groupings (wordings items)
  | [] => rfl
  | item :: rest => by
    rw [groupings, wordings, Wording.groupings, groupingWorded item, groupingsWorded rest]

end

mutual

theorem wordingPlain : (v : Value) → v.plain.wording = v.wording
  | .date t => by rw [plain, wording, wording, Time.Instant.text, String.toList_ofList]
  | .object entries => by rw [plain, wording, wording, Json.compact, String.toList_ofList]
  | .array items => by rw [plain, wording, wording, wordingsPlain items]
  | .null | .bool _ | .int _ | .float _ | .string _ => rfl

theorem wordingsPlain : (items : List Value) → wordings (plains items) = wordings items
  | [] => rfl
  | item :: rest => by rw [plains, wordings, wordings, wordingPlain item, wordingsPlain rest]

end

theorem textSame {v w : Value} : v.text = w.text ↔ v.wording = w.wording := by
  rw [← String.toList_inj, textWorded, textWorded]
  refine ⟨fun same => ?_, fun same => by rw [same]⟩
  exact (Wording.cancels v.wording w.wording [] [] Text.stopsAtNil Text.stopsAtNil
    (by simpa using same)).1

theorem integerNotNull (n : Int) : Word.integer n ≠ nullWord :=
  Word.integerNotNamed n (c := 'N') rfl (by decide)

theorem integerNotBool (n : Int) (b : Bool) : Word.integer n ≠ boolWord b := by
  cases b with
  | false => exact Word.integerNotNamed n (c := 'f') rfl (by decide)
  | true => exact Word.integerNotNamed n (c := 't') rfl (by decide)

theorem boolNotNull (b : Bool) : boolWord b ≠ nullWord := by
  intro same
  cases b <;> exact absurd (congrArg Word.letters same) (by decide)

theorem boolInjective : Function.Injective boolWord := by
  intro a b same
  cases a <;> cases b <;> first | rfl | exact absurd (congrArg Word.letters same) (by decide)

theorem plainOfQuoted {v : Value} {text : List Char} (quoted : v.wording = .quoted text) :
    v.plain = .string (String.ofList text) := by
  cases v with
  | string s =>
    cases quoted
    exact congrArg Value.string (String.ofList_toList).symm
  | date t =>
    cases quoted
    rfl
  | object entries =>
    cases quoted
    rfl
  | _ => cases quoted

mutual

theorem plainOfWording : (v w : Value) → v.NoFloat → w.NoFloat → v.wording = w.wording →
    v.plain = w.plain
  | .null, w, _, other, same => by
    cases w with
    | null => rfl
    | bool b => exact absurd (Wording.bare.inj same).symm (boolNotNull b)
    | int n => exact absurd (Wording.bare.inj same).symm (integerNotNull n.toInt)
    | float x => exact other.elim
    | _ => cases same
  | .bool b, w, _, other, same => by
    cases w with
    | null => exact absurd (Wording.bare.inj same) (boolNotNull b)
    | bool c => rw [boolInjective (Wording.bare.inj same)]
    | int n => exact absurd (Wording.bare.inj same).symm (integerNotBool n.toInt b)
    | float x => exact other.elim
    | _ => cases same
  | .int n, w, _, other, same => by
    cases w with
    | null => exact absurd (Wording.bare.inj same) (integerNotNull n.toInt)
    | bool b => exact absurd (Wording.bare.inj same) (integerNotBool n.toInt b)
    | int m => rw [Int64.toInt_inj.mp (Word.integerInjective (Wording.bare.inj same))]
    | float x => exact other.elim
    | _ => cases same
  | .string _, _, _, _, same | .date _, _, _, _, same | .object _, _, _, _, same =>
    (plainOfQuoted rfl).trans (plainOfQuoted same.symm).symm
  | .array items, w, whole, other, same => by
    cases w with
    | array others =>
      rw [plain, plain, plainsOfWordings items others whole other (Wording.row.inj same)]
    | _ => cases same
  | .float _, _, whole, _, _ => whole.elim

theorem plainsOfWordings : (items others : List Value) → NoFloats items → NoFloats others →
    wordings items = wordings others → plains items = plains others
  | [], [], _, _, _ => rfl
  | [], _ :: _, _, _, same => nomatch same
  | _ :: _, [], _, _, same => nomatch same
  | item :: items, other :: others, ⟨head, tail⟩, ⟨headToo, tailToo⟩, same => by
    obtain ⟨first, later⟩ := List.cons.inj same
    rw [plains, plains, plainOfWording item other head headToo first,
      plainsOfWordings items others tail tailToo later]

end

/-- Two values without floating-point numbers have the same text just when they are the same once
their dates and objects are taken as strings. A string is all that its text can be read as, wherever
that ends, and arrays that lie in each other in different ways have different texts. -/
theorem literalExact (v w : Value) :
    (v.NoFloat → w.NoFloat → (v.text = w.text ↔ v.plain = w.plain)) ∧
    (∀ (s : String) (rest : List Char), rest.head? ≠ some '\'' →
      Text.splitQuoted ((Value.string s).text.toList ++ rest) = some (s.toList, rest)) ∧
    (v.grouping ≠ w.grouping → v.text ≠ w.text) := by
  refine ⟨fun whole other => ?_, fun s rest stop => Text.splitQuotedBack s stop, fun differ texts => ?_⟩
  · rw [textSame]
    refine ⟨plainOfWording v w whole other, fun same => ?_⟩
    rw [← wordingPlain v, same, wordingPlain w]
  · rw [groupingWorded, groupingWorded, textSame.mp texts] at differ
    exact differ rfl

/- An object and the string of its text, with quotes and separators in strings. -/
def nested : Value :=
  .array [.string "a', ('b", .array [.int (-7), .object [("k", .string "it's")]], .array []]

def spelledOut : Value :=
  .array [.string "a', ('b", .array [.int (-7), .string "\x7b\"k\":\"it's\"\x7d"], .array []]

def regrouped : Value :=
  .array [.string "a', ('b", .int (-7), .array [.object [("k", .string "it's")]], .array []]

theorem nestedLiterals : nested.NoFloat ∧ spelledOut.NoFloat ∧ nested.text = spelledOut.text ∧
    nested.text ≠ regrouped.text ∧
    Text.splitQuoted ((Value.string "a', ('b").text.toList ++ ",)".toList) =
      some ("a', ('b".toList, ",)".toList) := by
  have whole : nested.NoFloat := ⟨trivial, ⟨trivial, trivial, trivial⟩, trivial, trivial⟩
  have other : spelledOut.NoFloat := ⟨trivial, ⟨trivial, trivial, trivial⟩, trivial, trivial⟩
  refine ⟨whole, other, ((literalExact nested spelledOut).1 whole other).mpr (by rfl), ?_, ?_⟩
  · exact (literalExact nested regrouped).2.2 nofun
  · exact (literalExact nested regrouped).2.1 _ _ (by decide)

end Value
end QueryTree
