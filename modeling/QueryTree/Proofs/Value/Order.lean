import QueryTree.Value.Basic

/-! Properties of a value and of all values in it, above all the order of entries. -/
namespace QueryTree.Value

mutual

@[simp] def Everywhere (p : Value → Prop) : Value → Prop
  | .array items => p (.array items) ∧ EverywhereItems p items
  | .object entries => p (.object entries) ∧ EverywhereEntries p entries
  | v => p v

@[simp] def EverywhereItems (p : Value → Prop) : List Value → Prop
  | [] => True
  | item :: rest => item.Everywhere p ∧ EverywhereItems p rest

@[simp] def EverywhereEntries (p : Value → Prop) : List (String × Value) → Prop
  | [] => True
  | (_, value) :: rest => value.Everywhere p ∧ EverywhereEntries p rest

end

@[simp] theorem everywhereEntries {p : Value → Prop} {entries : List (String × Value)} :
    EverywhereEntries p entries ↔ ∀ entry ∈ entries, entry.2.Everywhere p := by
  induction entries with
  | nil => simp
  | cons entry rest ih => simp [ih]

mutual

theorem everywhereBoth {p q : Value → Prop} : (v : Value) → v.Everywhere p → v.Everywhere q →
    v.Everywhere fun u => p u ∧ q u
  | .array items, ⟨here, inside⟩, ⟨alsoHere, alsoInside⟩ =>
    ⟨⟨here, alsoHere⟩, everywhereBothItems items inside alsoInside⟩
  | .object entries, ⟨here, inside⟩, ⟨alsoHere, alsoInside⟩ =>
    ⟨⟨here, alsoHere⟩, everywhereBothEntries entries inside alsoInside⟩
  | .null, here, alsoHere | .bool _, here, alsoHere | .int _, here, alsoHere
  | .float _, here, alsoHere | .string _, here, alsoHere | .date _, here, alsoHere =>
    ⟨here, alsoHere⟩

theorem everywhereBothItems {p q : Value → Prop} : (items : List Value) →
    EverywhereItems p items → EverywhereItems q items →
    EverywhereItems (fun u => p u ∧ q u) items
  | [], _, _ => trivial
  | item :: rest, ⟨head, tail⟩, ⟨alsoHead, alsoTail⟩ =>
    ⟨everywhereBoth item head alsoHead, everywhereBothItems rest tail alsoTail⟩

theorem everywhereBothEntries {p q : Value → Prop} : (entries : List (String × Value)) →
    EverywhereEntries p entries → EverywhereEntries q entries →
    EverywhereEntries (fun u => p u ∧ q u) entries
  | [], _, _ => trivial
  | (_, value) :: rest, ⟨head, tail⟩, ⟨alsoHead, alsoTail⟩ =>
    ⟨everywhereBoth value head alsoHead, everywhereBothEntries rest tail alsoTail⟩

end

def Ordered : Value → Prop
  | .object entries => Ascending entries
  | _ => True

theorem insertLast {name : String} {value : Value} {sorted : List (String × Value)}
    (last : ∀ entry ∈ sorted, entry.1 < name) :
    insertEntry name value sorted = sorted ++ [(name, value)] := by
  induction sorted with
  | nil => rfl
  | cons entry rest ih =>
    obtain ⟨other, held⟩ := entry
    have before : other < name := last _ List.mem_cons_self
    have later := ih fun entry inside => last entry (List.mem_cons_of_mem _ inside)
    rw [insertEntry, if_neg (String.lt_asymm before), if_neg (String.ne_of_lt before).symm, later]
    rfl

theorem insertAllLast {sorted : Entries} {entries : List (String × Value)}
    (ascending : Ascending (sorted.items ++ entries)) :
    (sorted.insertAll entries).items = sorted.items ++ entries := by
  induction entries generalizing sorted with
  | nil => simp [Entries.insertAll]
  | cons entry rest ih =>
    have last : ∀ other ∈ sorted.items, other.1 < entry.1 := fun other inside =>
      (List.pairwise_append.mp ascending).2.2 other inside entry List.mem_cons_self
    have inserted : (sorted.insert entry.1 entry.2).items = sorted.items ++ [entry] := insertLast last
    rw [List.append_cons, ← inserted] at ascending
    rw [Entries.insertAll, List.foldl_cons, ← Entries.insertAll, ih ascending, inserted,
      ← List.append_cons]

theorem sortAscending {entries : List (String × Value)} (ascending : Ascending entries) :
    (sortEntries entries).items = entries :=
  insertAllLast ascending

theorem insertAllInside {sorted : Entries} {entries : List (String × Value)}
    {entry : String × Value} (inside : entry ∈ (sorted.insertAll entries).items) :
    entry ∈ sorted.items ∨ entry ∈ entries := by
  induction entries generalizing sorted with
  | nil => exact .inl inside
  | cons first rest ih =>
    rcases ih inside with inserted | inside
    · rcases insertInside inserted with same | inside
      · exact .inr (List.mem_cons.mpr (.inl same))
      · exact .inl inside
    · exact .inr (List.mem_cons_of_mem _ inside)

theorem sortEntriesInside {entries : List (String × Value)} {entry : String × Value}
    (inside : entry ∈ (sortEntries entries).items) : entry ∈ entries := by
  rcases insertAllInside inside with none | inside
  · contradiction
  · exact inside

theorem insertPerm {name : String} (value : Value) {sorted : List (String × Value)}
    (fresh : ∀ entry ∈ sorted, name ≠ entry.1) :
    (insertEntry name value sorted).Perm ((name, value) :: sorted) := by
  induction sorted with
  | nil => exact .rfl
  | cons entry rest ih =>
    obtain ⟨differs, freshLater⟩ := List.forall_mem_cons.mp fresh
    rw [insertEntry, if_neg differs]
    split
    · exact .rfl
    · exact ((ih freshLater).cons _).trans (.swap _ _ _)

theorem insertAllPerm {sorted : Entries} {entries : List (String × Value)}
    (distinct : ((sorted.items ++ entries).map Prod.fst).Nodup) :
    (sorted.insertAll entries).items.Perm (sorted.items ++ entries) := by
  induction entries generalizing sorted with
  | nil => rw [List.append_nil]; exact .rfl
  | cons entry rest ih =>
    have moved : (sorted.items ++ entry :: rest).Perm (entry :: (sorted.items ++ rest)) :=
      List.perm_middle
    have apart := (moved.map Prod.fst).nodup_iff.mp distinct
    have fresh : ∀ other ∈ sorted.items, entry.1 ≠ other.1 := fun other inside same =>
      (List.nodup_cons.mp apart).1 (same ▸ List.mem_map_of_mem (List.mem_append_left _ inside))
    have inserted : ((sorted.insert entry.1 entry.2).items ++ rest).Perm
        (entry :: (sorted.items ++ rest)) := (insertPerm entry.2 fresh).append_right rest
    exact (ih ((inserted.map Prod.fst).nodup_iff.mpr apart)).trans (inserted.trans moved.symm)

theorem sortEntriesPerm {entries : List (String × Value)} (distinct : (entries.map Prod.fst).Nodup) :
    (sortEntries entries).items.Perm entries := insertAllPerm distinct

theorem sortEntriesSame {entries others : List (String × Value)} (order : entries.Perm others)
    (distinct : (entries.map Prod.fst).Nodup) :
    (sortEntries entries).items = (sortEntries others).items := by
  have distinctToo := (order.map Prod.fst).nodup_iff.mp distinct
  have sorted := (sortEntriesPerm distinct).trans (order.trans (sortEntriesPerm distinctToo).symm)
  refine sorted.eq_of_pairwise (fun a b _ _ less greater => ?_) (sortEntries entries).ascending
    (sortEntries others).ascending
  exact absurd greater (String.lt_asymm less)

end QueryTree.Value
