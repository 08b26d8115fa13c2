import QueryTree.Text.Blank

/-! Trimming: it takes away the blanks around a word, and what is left has none at its ends. -/
namespace QueryTree.Text

def Blank (text : String) : Prop := ∀ c ∈ text.toList, isBlank c = true

def Padded (word text : String) : Prop :=
  ∃ before after, text = before ++ word ++ after ∧ Blank before ∧ Blank after

theorem paddedSelf (word : String) : Padded word word := ⟨"", "", by simp, nofun, nofun⟩

structure Bare (text : String) : Prop where
  first : ∀ c ∈ text.toList.head?, isBlank c = false
  last : ∀ c ∈ text.toList.getLast?, isBlank c = false

theorem bareIff {text : String} : Bare text ↔ (∀ c ∈ text.toList.head?, isBlank c = false) ∧
    ∀ c ∈ text.toList.getLast?, isBlank c = false :=
  ⟨fun bare => ⟨bare.first, bare.last⟩, fun ends => ⟨ends.1, ends.2⟩⟩

/- The instances are given because the one that is found goes through all characters. -/
instance (text : String) : Decidable (Bare text) :=
  @decidable_of_iff' _ _ bareIff
    (@instDecidableAnd _ _ (Option.decidableForallMem _) (Option.decidableForallMem _))

theorem droppedFirst (text : List Char) : ∀ c ∈ (text.dropWhile isBlank).head?, isBlank c = false := by
  intro c first
  have stops := List.head?_dropWhile_not isBlank text
  rw [Option.mem_def.mp first] at stops
  exact stops

theorem droppedExact {blanks rest : List Char} (inside : ∀ c ∈ blanks, isBlank c = true)
    (first : ∀ c ∈ rest.head?, isBlank c = false) : (blanks ++ rest).dropWhile isBlank = rest := by
  rw [List.dropWhile_append_of_pos inside]
  cases rest with
  | nil => rfl
  | cons c rest => exact List.dropWhile_cons_of_neg (by simp [first c rfl])

theorem takenBlank (text : List Char) : ∀ c ∈ text.takeWhile isBlank, isBlank c = true :=
  List.all_eq_true.mp List.all_takeWhile

theorem trimPadded (text : String) : Padded (trim text) text := by
  let rest := text.toList.dropWhile isBlank
  refine ⟨String.ofList (text.toList.takeWhile isBlank),
    String.ofList (rest.reverse.takeWhile isBlank).reverse, ?_, ?_, ?_⟩
  · have shape : rest = (rest.reverse.dropWhile isBlank).reverse ++
        (rest.reverse.takeWhile isBlank).reverse := by
      rw [← List.reverse_append, List.takeWhile_append_dropWhile, List.reverse_reverse]
    rw [← String.toList_inj]
    simp only [trim, String.toList_append, String.toList_ofList, List.append_assoc]
    rw [← shape, List.takeWhile_append_dropWhile]
  · simpa [Blank] using takenBlank text.toList
  · simpa [Blank] using takenBlank rest.reverse

theorem trimBare (text : String) : Bare (trim text) := by
  let rest := text.toList.dropWhile isBlank
  constructor
  · intro c first
    -- What is left at the end is a beginning of what was left at the start.
    have begins : (trim text).toList <+: rest := by
      rw [trim, String.toList_ofList, ← List.reverse_suffix, List.reverse_reverse]
      exact List.dropWhile_suffix isBlank
    obtain ⟨more, whole⟩ := begins
    refine droppedFirst text.toList c ?_
    change c ∈ rest.head?
    rw [← whole, List.head?_append, Option.mem_def.mp first]
    rfl
  · intro c last
    rw [trim, String.toList_ofList, List.getLast?_reverse] at last
    exact droppedFirst rest.reverse c last

theorem paddedTrim {word text : String} (padded : Padded word text) (bare : Bare word) :
    trim text = word := by
  obtain ⟨before, after, rfl, blankBefore, blankAfter⟩ := padded
  rw [← String.toList_inj, trim, String.toList_ofList, String.toList_append, String.toList_append,
    List.append_assoc]
  cases shape : word.toList with
  | nil =>
    have whole : ∀ c ∈ before.toList ++ after.toList, isBlank c = true :=
      List.forall_mem_append.mpr ⟨blankBefore, blankAfter⟩
    have nothing : (before.toList ++ after.toList ++ []).dropWhile isBlank = [] :=
      droppedExact whole nofun
    rw [List.append_nil] at nothing
    rw [List.nil_append, nothing]
    rfl
  | cons c rest =>
    have start : ∀ d ∈ (c :: rest ++ after.toList).head?, isBlank d = false := by
      have first := bare.first
      rw [shape] at first
      exact first
    have ending : ∀ d ∈ (c :: rest).reverse.head?, isBlank d = false := by
      rw [List.head?_reverse, ← shape]
      exact bare.last
    have blanks : ∀ d ∈ after.toList.reverse, isBlank d = true := by simpa [Blank] using blankAfter
    rw [droppedExact blankBefore start, List.reverse_append, droppedExact blanks ending,
      List.reverse_reverse]

theorem trimExact {text word : String} : trim text = word ↔ Padded word text ∧ Bare word := by
  constructor
  · rintro rfl
    exact ⟨trimPadded text, trimBare text⟩
  · rintro ⟨padded, bare⟩
    exact paddedTrim padded bare

theorem letterNotBlank {c : Char} (above : 0x41 ≤ c.toNat) (below : c.toNat ≤ 0x7A) :
    isBlank c = false := by
  have apart : ∀ r ∈ blankRanges, r.2 < 0x41 ∨ 0x7A < r.1 := by decide
  rw [← Bool.not_eq_true, isBlank, coversIff]
  rintro ⟨r, inside, low, high⟩
  have := apart r inside
  omega

theorem capitalLower {c : Char} (capital : c.val ≥ 'A'.val ∧ c.val ≤ 'Z'.val) :
    c.toLower.toNat = c.toNat + 0x20 := by
  have bounds : 0x41 ≤ c.toNat ∧ c.toNat ≤ 0x5A := capital
  have lower : c.toLower.val = c.val + 0x20 := by rw [show c.toLower = _ from dif_pos capital]; rfl
  have step : (0x20 : UInt32).toNat = 0x20 := rfl
  have number : c.val.toNat = c.toNat := rfl
  rw [Char.toNat, lower, UInt32.toNat_add]
  omega

theorem blankLower (c : Char) : isBlank c.toLower = isBlank c := by
  by_cases capital : c.val ≥ 'A'.val ∧ c.val ≤ 'Z'.val
  · have bounds : 0x41 ≤ c.toNat ∧ c.toNat ≤ 0x5A := capital
    have small := capitalLower capital
    rw [letterNotBlank bounds.1 (by omega), letterNotBlank (by omega) (by omega)]
  · rw [show c.toLower = c from dif_neg capital]

theorem bareLower {text : String} (bare : Bare text.toLower) : Bare text := by
  have lowered : text.toLower.toList = text.toList.map Char.toLower := String.toList_map
  constructor
  · intro c first
    rw [← blankLower]
    refine bare.first c.toLower ?_
    rw [lowered, List.head?_map, Option.mem_def.mp first]
    rfl
  · intro c last
    rw [← blankLower]
    refine bare.last c.toLower ?_
    rw [lowered, List.getLast?_map, Option.mem_def.mp last]
    rfl

end QueryTree.Text
