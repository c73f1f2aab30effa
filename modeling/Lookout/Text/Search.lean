/-!
# Searching texts

Whether one text stands somewhere in another.

* **`isWithin_append`** — a text is found in any text around it.
* **`eq_of_isWithin`** — only there if the other one is no longer.
-/

namespace Lookout.Text

/-- The text `part` stands somewhere in a text. -/
def isWithin (part : List Char) : List Char → Bool
  | [] => part.isEmpty
  | c :: rest => part.isPrefixOf (c :: rest) || isWithin part rest

theorem isWithin_of_prefix (part behind : List Char) : isWithin part (part ++ behind) = true := by
  cases part with
  | nil => cases behind <;> simp [isWithin]
  | cons c rest => simp [isWithin, List.isPrefixOf]

/-- A text is found in any text around it. -/
theorem isWithin_append (before part behind : List Char) :
    isWithin part (before ++ (part ++ behind)) = true := by
  induction before with
  | nil => exact isWithin_of_prefix part behind
  | cons c rest ih => simp [isWithin, ih]

theorem isWithin_of_isPrefixOf {part cs : List Char} (h : part.isPrefixOf cs = true) :
    isWithin part cs = true := by
  obtain ⟨behind, rfl⟩ := List.isPrefixOf_iff_prefix.1 h
  exact isWithin_of_prefix part behind

theorem length_le_of_isWithin {part cs : List Char} (h : isWithin part cs = true) :
    part.length ≤ cs.length := by
  induction cs with
  | nil => simp_all [isWithin]
  | cons c rest ih =>
    rw [isWithin, Bool.or_eq_true] at h
    rcases h with h | h
    · exact (List.isPrefixOf_iff_prefix.1 h).length_le
    · exact Nat.le_succ_of_le (ih h)

/-- A text that is found in one which is no longer is that text. -/
theorem eq_of_isWithin {part cs : List Char} (h : isWithin part cs = true) (le : cs.length ≤ part.length) :
    part = cs := by
  cases cs with
  | nil => simpa [isWithin] using h
  | cons c rest =>
    rw [isWithin, Bool.or_eq_true] at h
    rcases h with h | h
    · exact (List.isPrefixOf_iff_prefix.1 h).eq_of_length_le le
    · exact absurd (length_le_of_isWithin h) (Nat.not_le.2 le)

end Lookout.Text
