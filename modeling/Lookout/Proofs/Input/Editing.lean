import Lookout.Input.Filter
import Lookout.Input.Palette
import Lookout.Proofs.Input.Ranking

/-!
# What is typed

A cursor stays inside its text, and no key makes the text longer by more than one character. A character
that is typed stands at the cursor, which comes to stand behind it.

* **`Holds.press`** — what a key does to the size of a text and its cursor.
* **`press_char`** — a character that is typed stands at the cursor.
-/

namespace Lookout

namespace LineEditor

/-- The cursor stands inside the text, which has at most `n` characters. -/
structure Holds (n : Nat) (e : LineEditor) : Prop where
  inside : e.cursor ≤ e.text.length
  short : e.text.length ≤ n

theorem holds_empty (n : Nat) : Holds n empty := ⟨Nat.le_refl 0, Nat.zero_le n⟩

theorem Holds.mono {n m : Nat} {e : LineEditor} (h : e.Holds n) (le : n ≤ m) : e.Holds m :=
  ⟨h.inside, Nat.le_trans h.short le⟩

theorem length_before (e : LineEditor) (inside : e.cursor ≤ e.text.length) :
    e.before.length = e.cursor := by
  rw [before, List.length_take, Nat.min_eq_left inside]

theorem length_before_add_after (e : LineEditor) : e.before.length + e.after.length = e.text.length := by
  rw [← List.length_append, before_append_after]

/-- Other characters in front of the cursor make the text longer by what they are more. -/
theorem length_replaceBefore_le {e : LineEditor} {cs : List Char} {n : Nat}
    (h : cs.length ≤ e.before.length + n) : (e.replaceBefore cs).text.length ≤ e.text.length + n := by
  have hparts := e.length_before_add_after
  simp only [replaceBefore, List.length_append]
  omega

theorem length_withoutLastWord_le (cs : List Char) : (withoutLastWord cs).length ≤ cs.length := by
  have htrim : (Text.trimEnd cs).length ≤ cs.length := by
    rw [Text.trimEnd, List.length_reverse, ← cs.length_reverse]
    exact (List.dropWhile_suffix _).length_le
  rw [withoutLastWord, List.length_reverse]
  refine Nat.le_trans (List.dropWhile_suffix _).length_le ?_
  rwa [List.length_reverse]

theorem length_control?_le {e e' : LineEditor} {ch : Char} (h : e.control? ch = some e') :
    e'.text.length ≤ e.text.length := by
  unfold control? at h
  split at h
  · cases h
    exact Nat.le_refl _
  · cases h
    exact Nat.le_refl _
  · cases h
    exact length_replaceBefore_le (n := 0) (Nat.zero_le _)
  · cases h
    exact length_replaceBefore_le (n := 0) (length_withoutLastWord_le _)
  · cases h

/-- No key makes the text longer by more than one character. -/
theorem length_edit?_le {e e' : LineEditor} {k : Key} (h : e.edit? k = some e') :
    e'.text.length ≤ e.text.length + 1 := by
  unfold edit? at h
  split at h
  case h_1 =>
    cases h
    refine length_replaceBefore_le (n := 1) ?_
    rw [List.length_dropLast]
    omega
  case h_2 =>
    cases h
    exact Nat.le_trans (List.length_eraseIdx_le _ _) (Nat.le_succ _)
  case h_7 ch _ =>
    split at h
    · exact Nat.le_trans (length_control?_le h) (Nat.le_succ _)
    · cases h
      refine length_replaceBefore_le (n := 1) (Nat.le_of_eq ?_)
      rw [List.length_append, List.length_singleton]
  case h_8 => cases h
  all_goals
    cases h
    exact Nat.le_succ _

/-- What a key does to the size of a text and its cursor. -/
theorem Holds.press {n : Nat} {e : LineEditor} (h : e.Holds n) (k : Key) :
    (e.press k).1.Holds (n + 1) := by
  refine ⟨press_cursor_le h.inside k, ?_⟩
  have hshort := h.short
  unfold LineEditor.press
  split
  · exact Nat.le_succ_of_le hshort
  · exact Nat.le_succ_of_le hshort
  · split
    · next hedit => exact Nat.le_trans (length_edit?_le hedit) (Nat.succ_le_succ hshort)
    · exact Nat.le_succ_of_le hshort

/-- The text with one more character at the cursor, which stands behind it. -/
def typed (e : LineEditor) (ch : Char) : LineEditor := ⟨e.before ++ ch :: e.after, e.cursor + 1⟩

/-- A character that is typed stands at the cursor. -/
theorem press_char {e : LineEditor} (inside : e.cursor ≤ e.text.length) {k : Key} {ch : Char}
    (code : k.code = .char ch) (plain : k.control = false) : e.press k = (e.typed ch, .consumed) := by
  have hedit : e.edit? k = some (e.typed ch) := by
    simp only [edit?, code, plain, Bool.false_eq_true, if_false, replaceBefore, typed,
      List.append_assoc, List.singleton_append, List.length_append, List.length_singleton,
      e.length_before inside]
  simp only [press, code, hedit]

end LineEditor

namespace Filter

/-- A key leaves the editor of a filter inside its text. -/
theorem holds_press {n : Nat} {f : Filter} (h : f.editor.Holds n) (k : Key) :
    (f.press k).1.editor.Holds (n + 1) := by
  have hpress := h.press k
  unfold press
  split
  · split <;> simp_all [LineEditor.holds_empty, empty]
  · split
    · exact LineEditor.holds_empty _
    · exact h.mono (Nat.le_succ n)

/-- The filter with one more character at its cursor. -/
def typed (f : Filter) (ch : Char) : Filter := { f with editor := f.editor.typed ch }

/-- An open filter takes in a character. -/
theorem press_char {f : Filter} (isOpen : f.isOpen = true) (inside : f.editor.cursor ≤ f.editor.text.length)
    {k : Key} {ch : Char} (code : k.code = .char ch) (plain : k.control = false) :
    f.press k = (f.typed ch, .changed) := by
  simp only [press, isOpen, if_true, LineEditor.press_char inside code plain, typed]

end Filter

/-! ## The palette -/

namespace Palette

/-- The editor of a palette holds at most `n` characters, and the number of the selected suggestion is
at most that of the commands. -/
structure Holds (n : Nat) (p : Palette) : Prop where
  editor : p.editor.Holds n
  selected : p.selected ≤ p.commands.length

theorem holds_new (n : Nat) (commands : List Command) : Holds n (new commands) :=
  ⟨LineEditor.holds_empty n, Nat.zero_le _⟩

theorem holds_reset (n : Nat) (p : Palette) (isOpen : Bool) : (p.reset isOpen).Holds n :=
  ⟨LineEditor.holds_empty n, Nat.zero_le _⟩

theorem Holds.mono {n m : Nat} {p : Palette} (h : p.Holds n) (le : n ≤ m) : p.Holds m :=
  ⟨h.editor.mono le, h.selected⟩

theorem length_suggestions_le (p : Palette) : p.suggestions.length ≤ p.commands.length :=
  Command.length_suggestions_le _ _

theorem Holds.move {n : Nat} {p : Palette} (h : p.Holds n) (step : Nat → Nat) : (p.move step).Holds n := by
  unfold Palette.move
  dsimp only
  split
  · exact h
  · next hcount =>
    have hlt := Nat.mod_lt (p.selected + step p.suggestions.length) (Nat.pos_of_ne_zero hcount)
    exact ⟨h.editor, Nat.le_trans (Nat.le_of_lt hlt) p.length_suggestions_le⟩

/-- A key leaves the editor of the palette inside its text, and a suggestion selected. -/
theorem Holds.press {n : Nat} {p : Palette} (h : p.Holds n) (k : Key) : (p.press k).1.Holds (n + 1) := by
  have hmono := h.mono (Nat.le_succ n)
  have hedit := h.editor.press k
  unfold Palette.press
  split
  · unfold pressOpen
    split
    case h_1 | h_2 => exact holds_reset (n + 1) p false
    case h_3 | h_4 | h_5 | h_6 =>
      dsimp only
      exact hmono.move _
    · split
      · next heq =>
        rw [heq] at hedit
        exact ⟨hedit, Nat.zero_le _⟩
      · next heq =>
        rw [heq] at hedit
        exact ⟨hedit, h.selected⟩
  · split
    · exact holds_reset _ p true
    · exact hmono

end Palette

end Lookout
