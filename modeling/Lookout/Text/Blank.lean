import Lookout.Text.Ranges

/-!
# Blanks

The characters that count as white space in typed and displayed text, and trimming them off.

* **`trim_eq_self`** — a text without blanks at its ends is its own trimmed form.
-/

namespace Lookout.Text

/-- The characters with the property `White_Space`. -/
def blankRanges : Ranges :=
  [(0x9, 0xd), (0x20, 0x20), (0x85, 0x85), (0xa0, 0xa0), (0x1680, 0x1680), (0x2000, 0x200a),
    (0x2028, 0x2029), (0x202f, 0x202f), (0x205f, 0x205f), (0x3000, 0x3000)]

/-- The character is white space. -/
def isBlank (c : Char) : Bool := blankRanges.has c.toNat

/-- The text without the blanks at its start. -/
def trimStart (cs : List Char) : List Char := cs.dropWhile isBlank

/-- The text without the blanks at its end. -/
def trimEnd (cs : List Char) : List Char := (cs.reverse.dropWhile isBlank).reverse

/-- The text without the blanks at either end. -/
def trim (cs : List Char) : List Char := trimEnd (trimStart cs)

theorem trimStart_cons_of_not_blank {c : Char} {cs : List Char} (h : isBlank c = false) :
    trimStart (c :: cs) = c :: cs := by
  simp [trimStart, List.dropWhile, h]

theorem trimEnd_append_of_not_blank {c : Char} {cs : List Char} (h : isBlank c = false) :
    trimEnd (cs ++ [c]) = cs ++ [c] := by
  simp [trimEnd, h]

/-- A text without blanks at its ends is its own trimmed form. -/
theorem trim_eq_self {cs : List Char} (first : ∀ c, cs.head? = some c → isBlank c = false)
    (last : ∀ c, cs.getLast? = some c → isBlank c = false) : trim cs = cs := by
  cases cs with
  | nil => rfl
  | cons c rest =>
    have start : trimStart (c :: rest) = c :: rest := trimStart_cons_of_not_blank (first c rfl)
    rw [trim, start]
    obtain ⟨front, d, split⟩ : ∃ front d, c :: rest = front ++ [d] :=
      ⟨(c :: rest).dropLast, (c :: rest).getLast (by simp),
        (List.dropLast_concat_getLast (by simp)).symm⟩
    rw [split]
    exact trimEnd_append_of_not_blank (last d (by rw [split]; simp))

end Lookout.Text
