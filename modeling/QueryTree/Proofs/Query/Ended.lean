import QueryTree.Proofs.Json.Ended
import QueryTree.Proofs.Query.Json

/-! A text that a query is read from is not the beginning of another one. -/
namespace QueryTree.Query

theorem nothingFollows {text : String} {q : Query} (accepted : ofText text = .ok q) (behind : String) :
    ofText (text ++ behind) = (if behind.toList.all Json.isSpace then .ok q else Json.malformed) ∧
    ∀ other, ofText (text ++ behind) = .ok other →
      (∀ c ∈ behind.toList, Json.isSpace c = true) ∧ other = q := by
  have whole : ofText (text ++ behind) =
      if behind.toList.all Json.isSpace then .ok q else Json.malformed :=
    record.readContinued accepted behind
  refine ⟨whole, fun other accepts => ?_⟩
  rw [whole] at accepts
  split at accepts
  · rename_i blank
    cases accepts
    exact ⟨List.all_eq_true.mp blank, rfl⟩
  · contradiction

def annotated : String :=
  "\x7b\"note\":[\"]\",\x7b\"at\":-1.5e3\x7d],\"object\":\"t\",\"limit\":1\x7d"

def annotatedRoot : Json.Node :=
  .object (.ofList .closed [(.ofChars "note".toList, .array (.ofList .closed
      [.text (.ofChars "]".toList), .object (.ofList .closed
        [(.ofChars "at".toList, .number ⟨true, ['1'], some ['5'], some (false, ['3'])⟩)])])),
    (.ofChars "object".toList, .text (.ofChars "t".toList)),
    (.ofChars "limit".toList, .number ⟨false, ['1'], none, none⟩)])

theorem annotatedOnce : ofText annotated = .ok (build "t" [.limit 1]) ∧
    ofText (annotated ++ " \r\n\t") = .ok (build "t" [.limit 1]) ∧
    ofText (annotated ++ " [\"t\"]") = Json.malformed ∧
    ∀ other, ofText (annotated ++ "\x7d") ≠ .ok other := by
  have read : ofText annotated = .ok (build "t" [.limit 1]) :=
    ofTextParsed annotatedRoot (by decide +kernel) rfl
  refine ⟨read, (nothingFollows read " \r\n\t").1, (nothingFollows read " [\"t\"]").1,
    fun other accepts => ?_⟩
  have blank := ((nothingFollows read "\x7d").2 other accepts).1 '\x7d' (by decide)
  contradiction

end QueryTree.Query
