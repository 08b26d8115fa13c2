import QueryTree.Proofs.Field.Grammar

/-! References of ASCII characters. An identifier begins with a letter or an underscore and goes on
with letters, digits, underscores and dollar signs; the parser reads the letters and the numerals of
all scripts as such, so that of what it accepts these are the references in ASCII. -/
namespace QueryTree
namespace Reference

def IsPlainIdentifier (text : String) : Prop :=
  ∃ c rest, text.toList = c :: rest ∧ (c.isAlpha || c == '_') = true ∧
    ∀ d ∈ rest, (d.isAlphanum || d == '_' || d == '$') = true

inductive Plain : String → Prop where
  | wildcard : Plain "*"
  | bare {name : String} (identifier : IsPlainIdentifier name) : Plain name
  | qualified {table name : String} (identifier : IsPlainIdentifier table)
      (column : IsPlainIdentifier name ∨ name = "*") : Plain (table ++ "." ++ name)

def Ascii (text : String) : Prop := ∀ c ∈ text.toList, c.toNat < 128

theorem alphaExact {c : Char} : c.isAlpha = true ↔
    (0x41 ≤ c.toNat ∧ c.toNat ≤ 0x5A) ∨ (0x61 ≤ c.toNat ∧ c.toNat ≤ 0x7A) := by
  have cases : c.isAlpha = (decide (c.val ≥ 'A'.val ∧ c.val ≤ 'Z'.val) ||
      (decide (c.val ≥ 'a'.val) && decide (c.val ≤ 'z'.val))) := rfl
  rw [cases]
  simp [UInt32.le_iff_toNat_le]

theorem letterAscii {c : Char} (ascii : c.toNat < 128) : Text.isLetter c = c.isAlpha := by
  have ranges : Text.alphabeticRanges.filter (fun r => r.1 < 128) = [(0x41, 0x5A), (0x61, 0x7A)] := by
    decide +kernel
  rw [Text.isLetter, Text.coversBelow ascii, ranges, Bool.eq_iff_iff, alphaExact]
  simp [Text.Ranges.covers]

theorem numeralAscii {c : Char} (ascii : c.toNat < 128) : Text.isNumeral c = c.isDigit := by
  have ranges : Text.numericRanges.filter (fun r => r.1 < 128) = [(0x30, 0x39)] := by decide +kernel
  rw [Text.isNumeral, Text.coversBelow ascii, ranges]
  simp [Text.Ranges.covers, Char.isDigit, UInt32.le_iff_toNat_le]

theorem startsAscii {c : Char} (ascii : c.toNat < 128) :
    startsIdentifier c = (c.isAlpha || c == '_') := by
  rw [startsIdentifier, letterAscii ascii]

theorem continuesAscii {c : Char} (ascii : c.toNat < 128) :
    continuesIdentifier c = (c.isAlphanum || c == '_' || c == '$') := by
  rw [continuesIdentifier, Text.isLetterOrNumeral, letterAscii ascii, numeralAscii ascii,
    Char.isAlphanum]

theorem alphanumBelow {c : Char} (alphanum : c.isAlphanum = true) : c.toNat < 128 := by
  rcases Bool.or_eq_true_iff.mp alphanum with letter | digit
  · have bounds := alphaExact.mp letter
    omega
  · have bounds : 0x30 ≤ c.toNat ∧ c.toNat ≤ 0x39 := by
      simpa [Char.isDigit, UInt32.le_iff_toNat_le] using digit
    omega

theorem plainBelow {c : Char} (plain : (c.isAlphanum || c == '_' || c == '$') = true) :
    c.toNat < 128 := by
  simp only [Bool.or_eq_true, beq_iff_eq] at plain
  rcases plain with (alphanum | rfl) | rfl
  · exact alphanumBelow alphanum
  · decide
  · decide

theorem plainContinues {c : Char} (starts : (c.isAlpha || c == '_') = true) :
    (c.isAlphanum || c == '_' || c == '$') = true := by
  simp only [Bool.or_eq_true] at starts
  rcases starts with letter | underscore
  · simp [Char.isAlphanum, letter]
  · simp [underscore]

theorem plainIdentifierAscii {text : String} (plain : IsPlainIdentifier text) : Ascii text := by
  obtain ⟨c, rest, shape, starts, continues⟩ := plain
  intro d inside
  rw [shape] at inside
  rcases List.mem_cons.mp inside with rfl | inside
  · exact plainBelow (plainContinues starts)
  · exact plainBelow (continues d inside)

theorem identifierPlain {text : String} (ascii : Ascii text) :
    IsPlainIdentifier text ↔ IsIdentifier text := by
  refine exists_congr fun c => exists_congr fun rest => and_congr_right fun shape => ?_
  rw [Ascii, shape, List.forall_mem_cons] at ascii
  rw [startsAscii ascii.1]
  refine and_congr_right fun _ => forall_congr' fun d => imp_congr_right fun inside => ?_
  rw [continuesAscii (ascii.2 d inside)]

@[simp] theorem asciiAppend (first second : String) :
    Ascii (first ++ second) ↔ Ascii first ∧ Ascii second := by
  simp only [Ascii, String.toList_append, List.forall_mem_append]

theorem starAscii : Ascii "*" := by simp [Ascii]

theorem plainAscii {text : String} (plain : Plain text) : Ascii text := by
  cases plain with
  | wildcard => exact starAscii
  | bare identifier => exact plainIdentifierAscii identifier
  | qualified identifier column =>
    rw [asciiAppend, asciiAppend]
    refine ⟨⟨plainIdentifierAscii identifier, by simp [Ascii]⟩, ?_⟩
    rcases column with identifier | rfl
    · exact plainIdentifierAscii identifier
    · exact starAscii

theorem plainWritten {text : String} (plain : Plain text) : ∃ reference, Written text reference := by
  have identifier {name : String} (plain : IsPlainIdentifier name) : IsIdentifier name :=
    (identifierPlain (plainIdentifierAscii plain)).mp plain
  cases plain with
  | wildcard => exact ⟨_, .wildcard⟩
  | bare name => exact ⟨_, .bare (identifier name)⟩
  | qualified table column => exact ⟨_, .qualified (identifier table) (column.imp_left identifier)⟩

theorem writtenPlain {text : String} {reference : Reference} (written : Written text reference)
    (ascii : Ascii text) : Plain text := by
  cases written with
  | wildcard => exact .wildcard
  | bare identifier => exact .bare ((identifierPlain ascii).mpr identifier)
  | qualified identifier column =>
    rw [asciiAppend, asciiAppend] at ascii
    obtain ⟨⟨table, -⟩, name⟩ := ascii
    exact .qualified ((identifierPlain table).mpr identifier)
      (column.imp_left (identifierPlain name).mpr)

theorem plainExact (text : String) : Plain text ↔ Accepted text ∧ Ascii text := by
  rw [acceptedWritten]
  constructor
  · intro plain
    exact ⟨plainWritten plain, plainAscii plain⟩
  · rintro ⟨⟨reference, written⟩, ascii⟩
    exact writtenPlain written ascii

theorem accentedNotPlain : ¬ ∀ text, Accepted text → Plain text := by
  intro claimed
  have accepted : Accepted "é" := ⟨⟨none, "é"⟩, by decide +kernel⟩
  have ascii := plainAscii (claimed "é" accepted)
  have below : 'é'.toNat < 128 := ascii 'é' (by simp)
  contradiction

end Reference
end QueryTree
