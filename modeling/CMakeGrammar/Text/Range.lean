/-! Closed ranges of code points, the form in which every character table here is written. -/
namespace CMakeGrammar.Text

def inRanges (ranges : List (Nat × Nat)) (n : Nat) : Bool :=
  ranges.any fun range => range.1 ≤ n && n ≤ range.2

theorem inRanges_iff {ranges : List (Nat × Nat)} {n : Nat} :
    inRanges ranges n = true ↔ ∃ range ∈ ranges, range.1 ≤ n ∧ n ≤ range.2 := by
  simp [inRanges]

theorem lt_of_inRanges {ranges : List (Nat × Nat)} {bound n : Nat}
    (ends : ∀ range ∈ ranges, range.2 < bound) (h : inRanges ranges n = true) : n < bound := by
  obtain ⟨range, mem, -, upTo⟩ := inRanges_iff.mp h
  exact Nat.lt_of_le_of_lt upTo (ends range mem)

@[simp] theorem inRanges_nil (n : Nat) : inRanges [] n = false := rfl

end CMakeGrammar.Text
