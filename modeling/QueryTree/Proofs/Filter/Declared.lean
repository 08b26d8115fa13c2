import QueryTree.Proofs.Filter.Honored
import QueryTree.Proofs.Json.Readers
import QueryTree.Proofs.Text.Trim

/-! Declared operators and the names of comparisons in JSON. What a declaration may say are the names
in JSON, in letters of either case and with blanks around them. -/
namespace QueryTree
namespace Comparison

def ofText (text : String) : Json.Result Comparison :=
  Json.readDocument (Json.readVariant ofSpelling?) 127 (.ofText text)

theorem namedExact {word : String} {c : Comparison} :
    ofText (Json.string word).compact = .ok c ↔ word ∈ c.symbol :: c.aliases := by
  have held : (Json.Document.ofText (Json.string word).compact).Holds (.string word) :=
    Json.compactHolds trivial
  rw [ofText, Json.variantHeld held, ofSpellingExact]

theorem declaredNamed {text : String} {c : Comparison} : ofDeclared? text = some c ↔
    ofText (Json.string (Text.trim text).toLower).compact = .ok c :=
  ofWordExact.trans namedExact.symm

theorem declaredOption (text : String) : ofDeclared? text =
    (ofText (Json.string (Text.trim text).toLower).compact).toOption := by
  refine Option.ext fun c => ?_
  rw [declaredNamed]
  cases ofText (Json.string (Text.trim text).toLower).compact <;> simp [Except.toOption]

theorem namesBare : ∀ c ∈ all, ∀ word ∈ c.symbol :: c.aliases, Text.Bare word := by decide +kernel

theorem namesSmall : ∀ c ∈ all, ∀ word ∈ c.symbol :: c.aliases, word.toLower = word := by
  decide +kernel

theorem paddedDeclared {word text : String} {c : Comparison} (padded : Text.Padded word text)
    (name : word.toLower ∈ c.symbol :: c.aliases) : ofDeclared? text = some c := by
  have bare := Text.bareLower (namesBare c (memberOfAll c) word.toLower name)
  rw [ofDeclared?, Text.trimExact.mpr ⟨padded, bare⟩, ofWordExact]
  exact name

theorem nameDeclared {word : String} {c : Comparison} (name : word ∈ c.symbol :: c.aliases) :
    ofDeclared? word = some c := by
  refine paddedDeclared (Text.paddedSelf word) ?_
  rw [namesSmall c (memberOfAll c) word name]
  exact name

theorem declaredPadded {text : String} {c : Comparison} : ofDeclared? text = some c ↔
    ∃ word, Text.Padded word text ∧ ofText (Json.string word.toLower).compact = .ok c := by
  constructor
  · intro declared
    obtain ⟨padded, _⟩ := Text.trimExact.mp (rfl : Text.trim text = Text.trim text)
    exact ⟨Text.trim text, padded, declaredNamed.mp declared⟩
  · rintro ⟨word, padded, named⟩
    exact paddedDeclared padded (namedExact.mp named)

theorem storedDeclared (condition : Condition) (c : Comparison) :
    (condition.withOperator c).declared? = some c :=
  nameDeclared List.mem_cons_self

theorem honoredOperator {text : String} {condition : Condition} {s : Filter.Settings}
    (declares : condition.operator = some text) (honors : s.honorOperators = true) :
    (s.compileCondition condition).operator = .comparison ((ofDeclared? text).getD .eq) := by
  have declared : condition.declared? = ofDeclared? text := by
    rw [Condition.declared?, declares]
    rfl
  rw [← declared, ← Filter.comparisonHonored honors]
  rfl

/-- A declaration is understood as a comparison just when JSON has its text, without the blanks around
it and in small letters, as a name of that comparison. So every name in JSON can be declared and is
compiled to its comparison where declarations are honoured; all else, but for the case of letters and
the blanks around a name, is compiled to equality. What is stored for a comparison is understood as
that comparison. -/
theorem declaredAsNamed :
    (∀ text c, ofDeclared? text = some c ↔
      ofText (Json.string (Text.trim text).toLower).compact = .ok c) ∧
    (∀ text c, ofText (Json.string text).compact = .ok c → ofDeclared? text = some c ∧
      ∀ (condition : Condition) (s : Filter.Settings), condition.operator = some text →
        s.honorOperators = true → (s.compileCondition condition).operator = .comparison c) ∧
    (∀ text c, ofDeclared? text = some c ↔
      ∃ word, Text.Padded word text ∧ ofText (Json.string word.toLower).compact = .ok c) ∧
    (∀ (text : String) (condition : Condition) (s : Filter.Settings),
      condition.operator = some text → s.honorOperators = true →
      (s.compileCondition condition).operator = .comparison
        ((ofText (Json.string (Text.trim text).toLower).compact).toOption.getD .eq)) ∧
    ∀ (condition : Condition) c, (condition.withOperator c).declared? = some c := by
  refine ⟨fun text c => declaredNamed, ?_, fun text c => declaredPadded, ?_, storedDeclared⟩
  · intro text c named
    have declared := nameDeclared (namedExact.mp named)
    refine ⟨declared, fun condition s declares honors => ?_⟩
    rw [honoredOperator declares honors, declared]
    rfl
  · intro text condition s declares honors
    rw [honoredOperator declares honors, declaredOption]

theorem looseDeclared : ofDeclared? "\u2003NOT In\n" = some .noneOf ∧
    ofDeclared? "contains" = some .like ∧
    ((⟨256, none, true⟩ : Filter.Settings).compileCondition ⟨"a", .null, some "<>"⟩).operator =
      .comparison .ne ∧
    ((⟨256, none, true⟩ : Filter.Settings).compileCondition ⟨"a", .null, some "starts with"⟩).operator =
      .comparison .eq := by
  obtain ⟨declared, named, _, compiled, _⟩ := declaredAsNamed
  refine ⟨(declared _ _).mpr (namedExact.mpr (by decide +kernel)),
    (named _ _ (namedExact.mpr (by decide))).1,
    (named "<>" .ne (namedExact.mpr (by decide))).2 _ _ rfl rfl, ?_⟩
  rw [compiled _ _ _ rfl rfl]
  decide +kernel

end Comparison
end QueryTree
