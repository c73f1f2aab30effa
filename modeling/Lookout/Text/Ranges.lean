/-!
# Ranges of characters

A character class given by the sorted, disjoint ranges of its code points, with membership.

* **`has_eq_true_iff`** — in an ordered table, a code point is found exactly when some range holds it.
-/

namespace Lookout.Text

/-- The ranges of a class, first and last code point of each, in increasing order. -/
abbrev Ranges := List (Nat × Nat)

namespace Ranges

/-- The code point lies in one of the ranges; the search stops at the first range above it. -/
def has : Ranges → Nat → Bool
  | [], _ => false
  | (lo, hi) :: rest, c => if c < lo then false else c ≤ hi || has rest c

/-- The ranges increase: each starts at or below its last point and above all ranges before it. -/
def Ordered : Ranges → Prop
  | [] => True
  | (lo, hi) :: rest => lo ≤ hi ∧ (∀ r ∈ rest, hi < r.1) ∧ Ordered rest

theorem has_eq_true_iff {r : Ranges} (h : Ordered r) (c : Nat) :
    has r c = true ↔ ∃ x ∈ r, x.1 ≤ c ∧ c ≤ x.2 := by
  induction r with
  | nil => simp [has]
  | cons x rest ih =>
    obtain ⟨lo, hi⟩ := x
    obtain ⟨start, above, ordered⟩ := h
    by_cases below : c < lo
    · simp only [has, below, if_true, List.mem_cons, exists_eq_or_imp]
      constructor
      · intro absurdity
        simp at absurdity
      · rintro (⟨hlo, _⟩ | ⟨y, hy, hy1, _⟩)
        · omega
        · have := above y hy; omega
    · simp only [has, below, if_false, Bool.or_eq_true, decide_eq_true_eq, List.mem_cons,
        exists_eq_or_imp, ih ordered]
      constructor
      · rintro (h | h)
        · exact .inl ⟨by omega, h⟩
        · exact .inr h
      · rintro (⟨_, h⟩ | h)
        · exact .inl h
        · exact .inr h

end Ranges

end Lookout.Text
