/-! Sets of characters, given by ranges of code points with both ends included. -/
namespace QueryTree.Text

abbrev Ranges := List (Nat × Nat)

def Ranges.covers (ranges : Ranges) (c : Char) : Bool :=
  ranges.any fun r => r.1 ≤ c.toNat && c.toNat ≤ r.2

theorem coversIff {ranges : Ranges} {c : Char} :
    ranges.covers c = true ↔ ∃ r ∈ ranges, r.1 ≤ c.toNat ∧ c.toNat ≤ r.2 := by
  simp [Ranges.covers]

theorem coversBelow {ranges : Ranges} {c : Char} {bound : Nat} (below : c.toNat < bound) :
    ranges.covers c = Ranges.covers (ranges.filter fun r => r.1 < bound) c := by
  rw [Bool.eq_iff_iff, coversIff, coversIff]
  refine exists_congr fun r => ?_
  rw [List.mem_filter, decide_eq_true_eq, and_assoc]
  refine and_congr_right fun _ => ⟨fun within => ⟨?_, within⟩, And.right⟩
  omega

end QueryTree.Text
