import QueryTree.Json.Node

/-! Tokens of a text that is cut between two of them. A token that leaves some of the text over does not
depend on what stands behind that, so the tokens of a text are those of its parts when the first part
ends in a mark. -/
namespace QueryTree.Json

def Local {α : Type} (scan : List Char → α × List Char) : Prop :=
  ∀ text more, (scan text).2 ≠ [] → scan (text ++ more) = ((scan text).1, (scan text).2 ++ more)

theorem wordLocal (t : Token) (letters : List Char) : Local (word t letters) := by
  intro text more left
  fun_induction word t letters text with
  | case1 text => rfl
  | case2 => exact absurd rfl left
  | case3 _ _ _ ih => simp only [List.cons_append, word, if_true, ih left]
  | case4 => exact absurd rfl left

theorem digitsLeft {text : List Char} (more : List Char) (left : text.dropWhile isDigit ≠ []) :
    (text ++ more).takeWhile isDigit = text.takeWhile isDigit ∧
      (text ++ more).dropWhile isDigit = text.dropWhile isDigit ++ more := by
  induction text with
  | nil => exact absurd rfl left
  | cons c text ih =>
    rw [List.cons_append, List.takeWhile_cons, List.takeWhile_cons, List.dropWhile_cons,
      List.dropWhile_cons]
    rw [List.dropWhile_cons] at left
    split
    · rename_i digit
      rw [if_pos digit] at left
      exact ⟨congrArg _ (ih left).1, (ih left).2⟩
    · exact ⟨rfl, rfl⟩

theorem exponentSignLocal : Local exponentSign := by
  intro text more left
  cases text with
  | nil => exact absurd rfl left
  | cons c rest =>
    by_cases minus : c = '-'
    · subst minus
      rfl
    by_cases plus : c = '+'
    · subst plus
      rfl
    · simp [exponentSign, minus, plus]

theorem exponentLocal (negative : Bool) (whole : List Char) (fraction : Option (List Char)) :
    Local (exponent negative whole fraction) := by
  intro text more left
  cases text with
  | nil => exact absurd rfl left
  | cons c rest =>
    simp only [exponent, List.cons_append] at left ⊢
    split at left
    · rename_i power
      rw [if_pos power, if_pos power]
      split at left
      · exact absurd rfl left
      · rename_i digits filled
        have signed : (exponentSign rest).2 ≠ [] := by
          intro empty
          rw [empty] at left
          exact left rfl
        obtain ⟨taken, dropped⟩ := digitsLeft more left
        simp only [exponentSignLocal rest more signed, taken, dropped]
    · rename_i other
      rw [if_neg other, if_neg other, List.cons_append]

theorem digitsLocal (negative : Bool) : Local (digits negative) := by
  intro text more left
  have some : text.dropWhile isDigit ≠ [] := by
    intro none
    refine left ?_
    unfold digits
    rw [none]
    split <;> rfl
  obtain ⟨taken, dropped⟩ := digitsLeft more some
  unfold digits at left ⊢
  rw [taken, dropped]
  split at left
  · exact absurd rfl left
  · exact absurd rfl left
  · obtain ⟨c, after, behind⟩ := List.exists_cons_of_ne_nil some
    rw [behind] at left ⊢
    rw [List.cons_append]
    by_cases point : c = '.'
    · subst point
      simp only at left ⊢
      split at left
      · exact absurd rfl left
      · rename_i fraction _
        have further : after.dropWhile isDigit ≠ [] := by
          intro none
          rw [none] at left
          exact left rfl
        obtain ⟨taken, dropped⟩ := digitsLeft more further
        simp only [taken, dropped]
        exact exponentLocal negative _ _ _ more left
    · split at left
      · rename_i begins
        exact absurd (List.cons.inj begins).1 point
      · split
        · rename_i begins
          exact absurd (List.cons.inj begins).1 point
        · exact exponentLocal negative _ none _ more left

theorem splitTextLocal : Local splitText := by
  intro text more left
  fun_induction splitText text with
  | case2 => rfl
  | case5 a b c d rest n unit text after split whole ih =>
    have same := ih (by rw [split]; exact left)
    have wholeToo : ¬ lacksUnit (a :: b :: c :: d :: (rest ++ more)) = true := whole
    simp only [List.cons_append, splitText, if_neg wholeToo, unit, same, split]
  | case8 e rest other c escaped text after split ih =>
    have same := ih (by rw [split]; exact left)
    simp [splitText, escaped, same, split]
  | case11 c rest quote alone unit escaped plain text after split ih =>
    have same := ih (by rw [split]; exact left)
    have plainToo : c ≠ '\\' := by
      rintro rfl
      cases rest with
      | nil => exact alone rfl rfl
      | cons e rest => exact escaped e rest rfl rfl
    simp [splitText, plainToo, plain, same, split]
  | _ => exact absurd rfl left

theorem tokenLocal (c : Char) : Local (token c) := by
  intro text more left
  unfold token at left ⊢
  split at left
  case h_7 => rw [splitTextLocal text more left]
  case h_8 | h_9 | h_10 => exact wordLocal _ _ text more left
  case h_11 => exact digitsLocal true text more left
  case h_12 =>
    split at left
    · rename_i digit
      simpa [digit] using digitsLocal false (c :: text) more left
    · exact absurd rfl left
  all_goals rfl

def Token.isMark : Token → Bool
  | .openArray | .closeArray | .openObject | .closeObject | .comma | .colon => true
  | _ => false

theorem wordUnmarked {t : Token} (value : t.isMark = false) (letters text : List Char) :
    (word t letters text).1.isMark = false := by
  fun_induction word t letters text with
  | case3 _ _ _ ih => exact ih
  | case1 => exact value
  | _ => rfl

theorem exponentUnmarked (negative : Bool) (whole : List Char) (fraction : Option (List Char))
    (text : List Char) : (exponent negative whole fraction text).1.isMark = false := by
  fun_cases exponent negative whole fraction text <;> rfl

theorem digitsUnmarked (negative : Bool) (text : List Char) :
    (digits negative text).1.isMark = false := by
  unfold digits
  split
  · rfl
  · rfl
  · split
    · split
      · rfl
      · exact exponentUnmarked ..
    · exact exponentUnmarked ..

theorem markLocal {c : Char} {text : List Char} (more : List Char)
    (mark : (token c text).1.isMark = true) :
    token c (text ++ more) = ((token c text).1, (token c text).2 ++ more) := by
  unfold token at mark ⊢
  split at mark
  case h_8 | h_9 | h_10 => rw [wordUnmarked rfl] at mark; contradiction
  case h_11 => rw [digitsUnmarked] at mark; contradiction
  case h_12 =>
    split at mark
    · rw [digitsUnmarked] at mark
      contradiction
    · contradiction
  all_goals first | rfl | contradiction

theorem tokensCut (before more : List Char) (ends : ∀ t ∈ (tokens before).getLast?, t.isMark = true) :
    tokens (before ++ more) = tokens before ++ tokens more := by
  fun_induction tokens before with
  | case1 => rfl
  | case2 c rest space ih =>
    rw [List.cons_append, tokens, if_pos space]
    exact ih ends
  | case3 c rest other _ ih =>
    have whole : token c (rest ++ more) = ((token c rest).1, (token c rest).2 ++ more) := by
      cases later : tokens (token c rest).2 with
      | nil =>
        rw [later] at ends
        exact markLocal more (ends _ rfl)
      | cons t ts =>
        refine tokenLocal c rest more fun empty => ?_
        rw [empty, tokens] at later
        contradiction
    rw [List.cons_append, tokens, if_neg other, whole, List.cons_append]
    refine congrArg _ (ih fun t last => ends t ?_)
    rw [List.getLast?_cons, Option.mem_def.mp last]
    rfl

end QueryTree.Json
