import QueryTree.Text.Quoted

/-! Where a written part of a text ends. A part that can be told from what follows it is cancelled:
equal texts that start with two such parts have the same part and the same rest. -/
namespace QueryTree.Text

/- The rest may only be one of those that come after a part, else `1` and `12` are not told apart. -/
def Cancels {α : Type} (follows : List Char → Prop) (write : α → List Char) (a : α) : Prop :=
  ∀ b rest other, follows rest → follows other → write a ++ rest = write b ++ other →
    a = b ∧ rest = other

def StopsAt (stops : Char → Bool) (rest : List Char) : Prop := ∀ c ∈ rest.head?, stops c = true

theorem stopsAtNil {stops : Char → Bool} : StopsAt stops [] := by
  intro c h
  cases h

theorem stopsAtCons {stops : Char → Bool} {c : Char} {rest : List Char} (h : stops c = true) :
    StopsAt stops (c :: rest) := by
  intro d same
  cases same
  exact h

theorem takeWhileWord {stops : Char → Bool} {word rest : List Char}
    (inside : ∀ c ∈ word, stops c = false) (stop : StopsAt stops rest) :
    (word ++ rest).takeWhile (fun c => !stops c) = word := by
  rw [List.takeWhile_append_of_pos (by simpa using inside)]
  cases rest with
  | nil => simp
  | cons c rest => simp [stop c rfl]

theorem wordCancels {stops : Char → Bool} {word other rest after : List Char}
    (inside : ∀ c ∈ word, stops c = false) (insideOther : ∀ c ∈ other, stops c = false)
    (stop : StopsAt stops rest) (stopOther : StopsAt stops after)
    (same : word ++ rest = other ++ after) : word = other ∧ rest = after := by
  have words := congrArg (List.takeWhile fun c => !stops c) same
  rw [takeWhileWord inside stop, takeWhileWord insideOther stopOther] at words
  subst words
  exact ⟨rfl, List.append_cancel_left same⟩

theorem doubledCancels {mark : Char} {text other rest after : List Char}
    (stop : rest.head? ≠ some mark) (stopOther : after.head? ≠ some mark)
    (same : doubled mark text ++ mark :: rest = doubled mark other ++ mark :: after) :
    text = other ∧ rest = after := by
  induction text generalizing other with
  | nil =>
    cases other with
    | nil => exact ⟨rfl, (List.cons.inj same).2⟩
    | cons d others =>
      simp only [doubled] at same
      split at same
      · simp only [List.nil_append, List.cons_append, List.cons.injEq, true_and] at same
        rw [same] at stop
        exact absurd rfl stop
      · rename_i different
        exact absurd (List.cons.inj same).1.symm different
  | cons c rest ih =>
    cases other with
    | nil =>
      simp only [doubled] at same
      split at same
      · simp only [List.nil_append, List.cons_append, List.cons.injEq, true_and] at same
        rw [← same] at stopOther
        exact absurd rfl stopOther
      · rename_i different
        exact absurd (List.cons.inj same).1 different
    | cons d others =>
      simp only [doubled] at same
      split at same <;> split at same
      · rename_i left right
        simp only [List.cons_append, List.cons.injEq, true_and] at same
        obtain ⟨rfl, rests⟩ := ih same
        exact ⟨by rw [left, right], rests⟩
      · rename_i different
        exact absurd (List.cons.inj same).1.symm different
      · rename_i different _
        exact absurd (List.cons.inj same).1 different
      · obtain ⟨first, later⟩ := List.cons.inj same
        obtain ⟨rfl, rests⟩ := ih later
        exact ⟨by rw [first], rests⟩

def separated {α : Type} (separator : List Char) (write : α → List Char) (parts : List α) :
    List Char :=
  parts.flatMap fun part => separator ++ write part

theorem separatedFollows {α : Type} {follows : List Char → Prop} {separator : List Char}
    {write : α → List Char} (closes : ∀ rest, follows (')' :: rest))
    (goesOn : ∀ rest, follows (separator ++ rest)) (parts : List α) (rest : List Char) :
    follows (separated separator write parts ++ ')' :: rest) := by
  cases parts with
  | nil => exact closes rest
  | cons part parts =>
    simp only [separated, List.flatMap_cons, List.append_assoc]
    exact goesOn _

theorem separatedCancels {α : Type} {follows : List Char → Prop} {separator : List Char}
    {write : α → List Char} {parts others : List α} {rest after : List Char}
    (apart : separator.head?.any (· != ')') = true)
    (closes : ∀ rest, follows (')' :: rest)) (goesOn : ∀ rest, follows (separator ++ rest))
    (each : ∀ part ∈ parts, Cancels follows write part)
    (same : separated separator write parts ++ ')' :: rest =
      separated separator write others ++ ')' :: after) :
    parts = others ∧ rest = after := by
  have starts : ∀ (part : α) (tail more : List Char),
      separator ++ write part ++ tail ≠ ')' :: more := by
    intro part tail more
    cases separator with
    | nil => simp at apart
    | cons s separator =>
      intro same
      have first := (List.cons.inj same).1
      simp [first] at apart
  induction parts generalizing others with
  | nil =>
    cases others with
    | nil => exact ⟨rfl, (List.cons.inj same).2⟩
    | cons other others =>
      simp only [separated, List.flatMap_nil, List.nil_append, List.flatMap_cons,
        List.append_assoc] at same
      exact absurd (by simpa using same.symm) (starts other _ rest)
  | cons part parts ih =>
    cases others with
    | nil =>
      simp only [separated, List.flatMap_nil, List.nil_append, List.flatMap_cons,
        List.append_assoc] at same
      exact absurd (by simpa using same) (starts part _ after)
    | cons other others =>
      simp only [separated, List.flatMap_cons, List.append_assoc] at same
      have later := List.append_cancel_left same
      obtain ⟨rfl, tails⟩ := each part List.mem_cons_self other _ _
        (separatedFollows closes goesOn parts rest) (separatedFollows closes goesOn others after) later
      obtain ⟨rfl, rests⟩ := ih (fun p h => each p (List.mem_cons_of_mem _ h)) tails
      exact ⟨rfl, rests⟩

def joined {α : Type} (separator : List Char) (write : α → List Char) : List α → List Char
  | [] => []
  | first :: others => write first ++ separated separator write others

theorem joinedIntercalate {α : Type} (separator : List Char) (write : α → List Char)
    (parts : List α) : separator.intercalate (parts.map write) = joined separator write parts := by
  cases parts with
  | nil => rfl
  | cons first others =>
    induction others generalizing first with
    | nil => simp [joined, separated]
    | cons next others ih =>
      have later := ih next
      rw [List.map_cons] at later
      rw [List.map_cons, List.map_cons, List.intercalate_cons_cons, later]
      simp [joined, separated]

theorem joinedCancels {α : Type} {follows : List Char → Prop} {separator : List Char}
    {write : α → List Char} {parts others : List α} {rest after : List Char}
    (apart : separator.head?.any (· != ')') = true)
    (closes : ∀ rest, follows (')' :: rest)) (goesOn : ∀ rest, follows (separator ++ rest))
    (starts : ∀ part rest after, write part ++ rest ≠ ')' :: after)
    (each : ∀ part ∈ parts, Cancels follows write part)
    (same : joined separator write parts ++ ')' :: rest =
      joined separator write others ++ ')' :: after) :
    parts = others ∧ rest = after := by
  cases parts with
  | nil =>
    cases others with
    | nil => exact ⟨rfl, (List.cons.inj same).2⟩
    | cons other others =>
      rw [joined, joined, List.append_assoc] at same
      exact absurd same.symm (starts other _ rest)
  | cons part parts =>
    cases others with
    | nil =>
      rw [joined, joined, List.append_assoc] at same
      exact absurd same (starts part _ after)
    | cons other others =>
      rw [joined, joined, List.append_assoc, List.append_assoc] at same
      obtain ⟨rfl, later⟩ := each part List.mem_cons_self other _ _
        (separatedFollows closes goesOn parts rest) (separatedFollows closes goesOn others after) same
      obtain ⟨rfl, rests⟩ := separatedCancels apart closes goesOn
        (fun p h => each p (List.mem_cons_of_mem _ h)) later
      exact ⟨rfl, rests⟩

end QueryTree.Text
