import Mathlib.Control.Monad.Basic
import QueryTree.Proofs.Field.Strict

/-! The language of references. What the parser accepts is what can be written, it refers to what the
field is resolved to, and a text that is refused is refused where its longest reference ends. -/
namespace QueryTree
namespace Reference

def Begins (used text : String) : Prop := used.toList <+: text.toList

structure Longest (text used : String) : Prop where
  accepted : Accepted used
  begins : Begins used text
  longest : ∀ other, Accepted other → Begins other text → other.length ≤ used.length

inductive Refused (text : String) : (message : String) → Prop where
  | empty (nothing : text = "") : Refused text "empty reference"
  | noIdentifier {found : Char} {rest : List Char} (starts : text = String.ofList (found :: rest))
      (never : ∀ used, Begins used text → ¬ Accepted used) :
      Refused text ("expected an identifier or '*', found '" ++ found.toString ++ "'")
  | unexpected {used : String} {found : Char} {rest : List Char} (longest : Longest text used)
      (whole : text = used ++ String.ofList (found :: rest)) :
      Refused text ("unexpected '" ++ found.toString ++ "' at position " ++
        toString used.utf8ByteSize)

theorem prefixTakeWhile {stays : Char → Bool} {word text : List Char} (begins : word <+: text)
    (inside : ∀ c ∈ word, stays c = true) : word <+: text.takeWhile stays := by
  obtain ⟨rest, rfl⟩ := begins
  rw [List.takeWhile_append_of_pos inside]
  exact List.prefix_append _ _

theorem identifierLongest {text name rest : List Char} {word : String}
    (found : identifier? text = some (name, rest)) (identifier : IsIdentifier word)
    (begins : word.toList <+: text) : word.toList <+: name := by
  obtain ⟨c, others, shape, _, continues⟩ := identifier
  rw [shape] at begins ⊢
  unfold identifier? at found
  split at found
  · contradiction
  · rename_i first tail
    split at found
    · simp only [Option.some.injEq, Prod.mk.injEq] at found
      obtain ⟨rfl, rfl⟩ := found
      obtain ⟨rfl, later⟩ := List.cons_prefix_cons.mp begins
      exact List.cons_prefix_cons.mpr ⟨rfl, prefixTakeWhile later continues⟩
    · contradiction

theorem identifierNowhere {text : List Char} {word : String} (unnamed : identifier? text = none)
    (identifier : IsIdentifier word) : ¬ word.toList <+: text := by
  obtain ⟨c, others, shape, starts, _⟩ := identifier
  intro begins
  rw [shape] at begins
  unfold identifier? at unnamed
  split at unnamed
  · exact absurd (List.prefix_nil.mp begins) (List.cons_ne_nil _ _)
  · obtain ⟨rfl, -⟩ := List.cons_prefix_cons.mp begins
    rw [if_pos starts] at unnamed
    contradiction

theorem starUnnamed (rest : List Char) : identifier? ('*' :: rest) = none := by
  rw [identifier?, starApart]
  rfl

theorem tableWhole {text name rest more : List Char} {table : String}
    (found : identifier? text = some (name, rest)) (identifier : IsIdentifier table)
    (begins : table.toList ++ '.' :: more <+: text) :
    table.toList = name ∧ '.' :: more <+: rest := by
  obtain ⟨named, whole⟩ := identifierFound found
  obtain ⟨extra, shape⟩ := identifierLongest found identifier
    ((List.prefix_append _ _).trans begins)
  cases extra with
  | nil =>
    rw [List.append_nil] at shape
    rw [whole, ← shape, List.prefix_append_right_inj] at begins
    exact ⟨shape, begins⟩
  | cons c extra =>
    rw [whole, ← shape, List.append_assoc, List.prefix_append_right_inj] at begins
    obtain ⟨rfl, -⟩ := List.cons_prefix_cons.mp begins
    have inside : '.' ∈ name := by simp [← shape]
    exact absurd (by simpa using inside) (identifierNoPoint named)

theorem identifierBefore (table name : String) : table.toList <+: (table ++ "." ++ name).toList := by
  rw [String.toList_append, String.toList_append, List.append_assoc]
  exact List.prefix_append _ _

theorem unnamedWildcard {text : List Char} (unnamed : identifier? text = none) {word : String}
    {reference : Reference} (written : Written word reference) (begins : word.toList <+: text) :
    word = "*" := by
  cases written with
  | wildcard => rfl
  | bare identifier => exact absurd begins (identifierNowhere unnamed identifier)
  | qualified identifier =>
    exact absurd ((identifierBefore _ _).trans begins) (identifierNowhere unnamed identifier)

theorem nothingWritten {text : List Char} (unread : longest? text = none) {word : String}
    {reference : Reference} (written : Written word reference) : ¬ word.toList <+: text := by
  have reads := longestReads text
  rw [unread] at reads
  cases reads with
  | nothing noStar unnamed =>
    intro begins
    rw [unnamedWildcard unnamed written begins] at begins
    obtain ⟨rest, same⟩ := begins
    exact noStar rest (by simpa using same.symm)

theorem columnBehind {text first tail : List Char} (named : identifier? text = some (first, tail))
    {word : String} {reference : Reference} (written : Written word reference)
    (begins : word.toList <+: text) : word.length ≤ first.length ∨
      ∃ name, IsColumn name ∧ '.' :: name.toList <+: tail ∧
        word.length = first.length + 1 + name.length := by
  obtain ⟨identifier, _⟩ := identifierFound named
  cases written with
  | wildcard =>
    have filled := (identifierCharacters identifier).1
    rw [String.toList_ofList] at filled
    exact .inl (List.length_pos_iff.mpr filled)
  | bare other => exact .inl (identifierLongest named other begins).length_le
  | @qualified table name other column =>
    have whole : (table ++ "." ++ name).toList = table.toList ++ '.' :: name.toList := by simp
    rw [whole] at begins
    obtain ⟨same, behind⟩ := tableWhole named other begins
    refine .inr ⟨name, column, behind, ?_⟩
    rw [← same, ← String.length_toList, whole]
    simp only [List.length_append, List.length_cons, String.length_toList]
    omega

theorem readLongest {text used rest : List Char} {reference : Reference}
    (found : longest? text = some (reference, rest)) (whole : text = used ++ rest) {word : String}
    {other : Reference} (written : Written word other) (begins : word.toList <+: text) :
    word.length ≤ used.length := by
  have reads := longestReads text
  rw [found] at reads
  have lengths := congrArg List.length whole
  rw [List.length_append] at lengths
  cases reads with
  | wildcard star =>
    rw [star] at begins lengths
    rw [unnamedWildcard (starUnnamed rest) written begins]
    simp only [List.length_cons] at lengths
    exact (by omega : 1 ≤ used.length)
  | @all table _ named =>
    obtain ⟨_, parts⟩ := identifierFound named
    simp only [parts, List.length_append, List.length_cons] at lengths
    rcases columnBehind named written begins with short | ⟨name, column, behind, long⟩
    · omega
    · obtain ⟨-, behind⟩ := List.cons_prefix_cons.mp behind
      rcases column with identifier | rfl
      · exact absurd behind (identifierNowhere (starUnnamed rest) identifier)
      · have star : "*".length = 1 := rfl
        omega
  | @column table more name _ named column =>
    obtain ⟨_, parts⟩ := identifierFound named
    obtain ⟨_, partsMore⟩ := identifierFound column
    simp only [parts, partsMore, List.length_append, List.length_cons] at lengths
    rcases columnBehind named written begins with short | ⟨other, written, behind, long⟩
    · omega
    · obtain ⟨-, behind⟩ := List.cons_prefix_cons.mp behind
      rcases written with identifier | rfl
      · have length := (identifierLongest column identifier behind).length_le
        rw [String.length_toList] at length
        omega
      · obtain ⟨tail, rfl⟩ := behind
        rw [show "*".toList ++ tail = '*' :: tail from rfl, starUnnamed] at column
        contradiction
  | @bare name _ named noColumn =>
    obtain ⟨_, parts⟩ := identifierFound named
    simp only [parts, List.length_append] at lengths
    rcases columnBehind named written begins with short | ⟨other, written, ⟨more, point⟩, long⟩
    · omega
    · obtain ⟨noStar, unnamed⟩ := noColumn (other.toList ++ more) point.symm
      rcases written with identifier | rfl
      · exact absurd (List.prefix_append _ _) (identifierNowhere unnamed identifier)
      · exact absurd rfl (noStar more)

theorem writtenResolved {text : String} {reference : Reference} (written : Written text reference)
    (implicit : Option String) :
    Field.resolve text implicit = ⟨reference.table.or implicit, reference.name⟩ := by
  cases written with
  | wildcard => exact Field.resolveBare (by decide) implicit
  | bare identifier => exact Field.resolveBare (identifierNoPoint identifier) implicit
  | qualified identifier => exact Field.resolveQualified (identifierNoPoint identifier) _ implicit

theorem writtenOnce {text : String} {reference other : Reference} (written : Written text reference)
    (writtenToo : Written text other) : reference = other := by
  have same := (writtenResolved written none).symm.trans (writtenResolved writtenToo none)
  obtain ⟨table, name⟩ := reference
  obtain ⟨otherTable, otherName⟩ := other
  simpa using same

theorem parseWritten {text : String} {reference : Reference} (written : Written text reference) :
    parse text = .ok reference := by
  unfold parse
  split
  · rename_i empty
    exact absurd empty (writtenCharacters written).1
  · rename_i c tail shape
    split
    · rename_i unread
      exact absurd (shape ▸ List.prefix_rfl) (nothingWritten unread written)
    · rename_i read found
      obtain ⟨used, whole, writtenToo⟩ := readWritten found
      rw [← shape, List.append_nil] at whole
      rw [← whole, String.ofList_toList] at writtenToo
      rw [writtenOnce writtenToo written]
    · rename_i d after found
      obtain ⟨used, whole, _⟩ := readWritten found
      have short := readLongest found whole written (shape ▸ List.prefix_rfl)
      have lengths := congrArg List.length (shape.trans whole)
      simp only [List.length_append, List.length_cons, String.length_toList] at lengths
      omega

theorem acceptedWritten {text : String} : Accepted text ↔ ∃ reference, Written text reference :=
  exists_congr fun _ => ⟨parsedWritten, parseWritten⟩

theorem beginsSelf (text : String) : Begins text text := List.prefix_rfl

theorem longestOnce {text used other : String} (one : Longest text used) (two : Longest text other) :
    used = other := by
  have shorter := two.longest used one.accepted one.begins
  have longer := one.longest other two.accepted two.begins
  have length : used.toList.length = other.toList.length := by
    rw [String.length_toList, String.length_toList]
    omega
  exact String.toList_inj.mp
    ((List.prefix_of_prefix_length_le one.begins two.begins (Nat.le_of_eq length)).eq_of_length length)

theorem refusedNotAccepted {text message : String} (refused : Refused text message) :
    ¬ Accepted text := by
  intro accepted
  cases refused with
  | empty nothing =>
    obtain ⟨reference, parsed⟩ := accepted
    rw [nothing] at parsed
    contradiction
  | noIdentifier _ never => exact never text (beginsSelf text) accepted
  | @unexpected used found rest longest whole =>
    have short := longest.longest text accepted (beginsSelf text)
    have length := congrArg String.length whole
    simp only [String.length_append, String.length_ofList, List.length_cons] at length
    omega

theorem refusedOnce {text message other : String} (one : Refused text message)
    (two : Refused text other) : message = other := by
  cases one with
  | empty nothing =>
    cases two with
    | empty => rfl
    | noIdentifier starts => simp [nothing] at starts
    | unexpected _ whole => simp [nothing] at whole
  | noIdentifier starts never =>
    cases two with
    | empty nothing => simp [nothing] at starts
    | noIdentifier startsToo =>
      obtain ⟨rfl, -⟩ := List.cons.inj (String.ofList_injective (starts.symm.trans startsToo))
      rfl
    | unexpected longest => exact absurd longest.accepted (never _ longest.begins)
  | unexpected longest whole =>
    cases two with
    | empty nothing => simp [nothing] at whole
    | noIdentifier _ never => exact absurd longest.accepted (never _ longest.begins)
    | unexpected longestToo wholeToo =>
      cases longestOnce longest longestToo
      have rests := (String.append_right_inj _).mp (whole.symm.trans wholeToo)
      obtain ⟨rfl, -⟩ := List.cons.inj (String.ofList_injective rests)
      rfl

theorem byteLengthSize (text : List Char) :
    Text.byteLength text = (String.ofList text).utf8ByteSize := by
  induction text with
  | nil => rfl
  | cons c rest ih =>
    rw [Text.byteLength, ih, String.ofList_cons, String.utf8ByteSize_append,
      String.utf8ByteSize_singleton]

theorem parseRefused {text : String} {fault : ReferenceFault} (fails : parse text = .error fault) :
    Refused text fault.message := by
  unfold parse at fails
  split at fails
  · rename_i empty
    cases fails
    exact .empty (String.toList_inj.mp empty)
  · rename_i c tail shape
    have starts : text = String.ofList (c :: tail) := by rw [← shape, String.ofList_toList]
    split at fails
    · rename_i unread
      cases fails
      refine .noIdentifier starts fun used begins accepted => ?_
      obtain ⟨reference, written⟩ := acceptedWritten.mp accepted
      exact nothingWritten unread written (shape ▸ begins)
    · contradiction
    · rename_i d after found
      cases fails
      obtain ⟨used, whole, written⟩ := readWritten found
      have position : Text.byteLength (c :: tail) - Text.byteLength (d :: after) =
          (String.ofList used).utf8ByteSize := by
        rw [whole, byteLengthSize, byteLengthSize, String.ofList_append, String.utf8ByteSize_append,
          Nat.add_sub_cancel]
      rw [position]
      refine .unexpected ⟨acceptedWritten.mpr ⟨_, written⟩, ?_, fun other accepted begins => ?_⟩
        (by rw [starts, whole, String.ofList_append])
      · rw [Begins, shape, whole, String.toList_ofList]
        exact List.prefix_append _ _
      · obtain ⟨reference, writtenToo⟩ := acceptedWritten.mp accepted
        rw [String.length_ofList]
        exact readLongest found whole writtenToo (shape ▸ begins)

theorem parseExact (text : String) :
    (∀ reference, parse text = .ok reference ↔ Written text reference) ∧
    (∀ reference, parse text = .ok reference → ∀ implicit,
      Field.resolve text implicit = ⟨reference.table.or implicit, reference.name⟩) ∧
    (∀ message, (parse text).mapError ReferenceFault.message = .error message ↔
      Refused text message) := by
  refine ⟨fun reference => ⟨parsedWritten, parseWritten⟩, fun reference parsed implicit => ?_,
    fun message => ?_⟩
  · exact writtenResolved (parsedWritten parsed) implicit
  · cases result : parse text with
    | ok reference =>
      refine ⟨fun h => by contradiction, fun refused => ?_⟩
      exact absurd ⟨reference, result⟩ (refusedNotAccepted refused)
    | error fault =>
      have refused := parseRefused result
      exact ⟨fun h => Except.error.inj h ▸ refused, fun other =>
        congrArg Except.error (refusedOnce refused other)⟩

/- Two bytes for each letter, and a second point that is no part of a reference. -/
theorem accentedExact : Written "é.*" ⟨some "é", "*"⟩ ∧
    Field.resolve "é.*" (some "t") = ⟨some "é", "*"⟩ ∧
    Refused "é.è$.ê" "unexpected '.' at position 6" ∧
    Refused "$é" "expected an identifier or '*', found '$'" := by
  have parsed : parse "é.*" = .ok ⟨some "é", "*"⟩ := by decide +kernel
  obtain ⟨written, resolved, _⟩ := parseExact "é.*"
  exact ⟨(written _).mp parsed, resolved _ parsed (some "t"),
    ((parseExact "é.è$.ê").2.2 _).mp (by decide +kernel), ((parseExact "$é").2.2 _).mp (by decide +kernel)⟩

end Reference
end QueryTree
