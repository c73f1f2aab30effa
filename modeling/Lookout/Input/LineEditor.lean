import Lookout.Input.Key
import Lookout.Screen.Span
import Lookout.Text.Blank

/-!
# The line editor

A text of one line with a cursor, which counts characters and stands in front of one of them or at the
end.

* **`before_append_after`** — the cursor divides the text.
* **`press_cursor_le`** — no key moves the cursor out of the text.
* **`lineText_line`** — what is displayed is the prompt and the text, with a space for the cursor if it
  stands at the end.
-/

namespace Lookout

/-- A text of one line and the number of characters in front of the cursor. -/
structure LineEditor where
  text : List Char
  cursor : Nat
deriving DecidableEq, Inhabited

/-- What the line editor makes of a key: it is used up, the text is handed in, the input is given up, or
the key is left to others. -/
inductive EditResult
  | consumed
  | submitted (text : List Char)
  | cancelled
  | notHandled
deriving DecidableEq, Inhabited

namespace LineEditor

/-- Nothing has been typed. -/
def empty : LineEditor := ⟨[], 0⟩

/-- The characters in front of the cursor. -/
def before (e : LineEditor) : List Char := e.text.take e.cursor

/-- The characters behind the cursor. -/
def after (e : LineEditor) : List Char := e.text.drop e.cursor

/-- The cursor divides the text. -/
@[simp] theorem before_append_after (e : LineEditor) : e.before ++ e.after = e.text :=
  List.take_append_drop e.cursor e.text

/-- What is left of a text when its last word is deleted: without the blanks at its end, everything up
to and with the last space. -/
def withoutLastWord (cs : List Char) : List Char :=
  ((Text.trimEnd cs).reverse.dropWhile (· ≠ ' ')).reverse

/-- The text with other characters in front of the cursor. -/
def replaceBefore (e : LineEditor) (cs : List Char) : LineEditor := ⟨cs ++ e.after, cs.length⟩

/-- What a key with Control does, if it does anything. -/
def control? (e : LineEditor) : Char → Option LineEditor
  | 'a' => some { e with cursor := 0 }
  | 'e' => some { e with cursor := e.text.length }
  | 'u' => some (e.replaceBefore [])
  | 'w' => some (e.replaceBefore (withoutLastWord e.before))
  | _ => none

/-- What a key does to the text and the cursor, if it does anything. -/
def edit? (e : LineEditor) (k : Key) : Option LineEditor :=
  match k.code with
  | .backspace => some (e.replaceBefore e.before.dropLast)
  | .delete => some { e with text := e.text.eraseIdx e.cursor }
  | .left => some { e with cursor := e.cursor - 1 }
  | .right => some { e with cursor := min (e.cursor + 1) e.text.length }
  | .home => some { e with cursor := 0 }
  | .finish => some { e with cursor := e.text.length }
  | .char c => if k.control then e.control? c else some (e.replaceBefore (e.before ++ [c]))
  | _ => none

/-- Takes in a key. -/
def press (e : LineEditor) (k : Key) : LineEditor × EditResult :=
  match k.code with
  | .escape => (e, .cancelled)
  | .enter => (e, .submitted e.text)
  | _ =>
    match e.edit? k with
    | some e => (e, .consumed)
    | none => (e, .notHandled)

theorem cursor_replaceBefore_le (e : LineEditor) (cs : List Char) :
    (e.replaceBefore cs).cursor ≤ (e.replaceBefore cs).text.length := by
  simp [replaceBefore]

theorem control?_cursor_le {e e' : LineEditor} {c : Char} (h : e.control? c = some e') :
    e'.cursor ≤ e'.text.length := by
  unfold control? at h
  split at h <;> simp only [Option.some.injEq, reduceCtorEq] at h <;> subst h
  · exact Nat.zero_le _
  · exact Nat.le_refl _
  · exact cursor_replaceBefore_le _ _
  · exact cursor_replaceBefore_le _ _

theorem edit?_cursor_le {e e' : LineEditor} {k : Key} (inside : e.cursor ≤ e.text.length)
    (h : e.edit? k = some e') : e'.cursor ≤ e'.text.length := by
  unfold edit? at h
  split at h
  case h_7 =>
    split at h
    · exact control?_cursor_le h
    · cases h
      exact cursor_replaceBefore_le _ _
  case h_2 =>
    cases h
    by_cases last : e.cursor < e.text.length
    · simp only [List.length_eraseIdx_of_lt last]
      omega
    · simpa [List.eraseIdx_of_length_le (Nat.not_lt.1 last)] using inside
  all_goals
    simp only [Option.some.injEq, reduceCtorEq] at h
    try subst h
  · exact cursor_replaceBefore_le _ _
  · exact Nat.le_trans (Nat.sub_le _ _) inside
  · exact Nat.min_le_right _ _
  · exact Nat.zero_le _
  · exact Nat.le_refl _

/-- No key moves the cursor out of the text. -/
theorem press_cursor_le {e : LineEditor} (inside : e.cursor ≤ e.text.length) (k : Key) :
    (e.press k).1.cursor ≤ (e.press k).1.text.length := by
  unfold press
  split
  · exact inside
  · exact inside
  · split
    · next h => exact edit?_cursor_le inside h
    · exact inside

/-- The line with a prompt: the text in front of the cursor, the character under it, a space at the end
of the text, and the text behind that. -/
def line (e : LineEditor) (prompt : String) : List Span :=
  [.styled prompt (.colored .yellow), ⟨e.before, .plain⟩,
    ⟨[e.after.headD ' '], (Style.colored .black).onGround .yellow⟩, ⟨e.after.tail, .plain⟩]

/-- What is displayed is the prompt and the text, with a space for the cursor if it stands at the end. -/
theorem lineText_line (e : LineEditor) (prompt : String) :
    Span.lineText (e.line prompt) =
      prompt.toList ++ (e.text ++ if e.after.isEmpty then [' '] else []) := by
  rw [← e.before_append_after]
  cases h : e.after <;> simp [Span.lineText, line, Span.styled, h]

end LineEditor

end Lookout
