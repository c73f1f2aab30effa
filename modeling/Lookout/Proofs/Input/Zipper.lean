import Lookout.Proofs.Input.Bytes

/-!
# A line as a zipper

The text in front of a cursor and the text behind it, and what keys do to the two. The line editor, which
counts characters, and the program, which cuts bytes, show the same two texts after any keys.

* **`press_editor`** — what one key does.
* **`afterKeysChecked_cases`** — no keys cut a text where no character starts.
* **`typed_as_zipper`** — the same two texts after any keys, and what is displayed of them.
-/

namespace Lookout

namespace LineEditor

open Checked

/-- The editor after keys. -/
def afterKeys (e : LineEditor) (keys : List Key) : LineEditor := keys.foldl (fun e k => (e.press k).1) e

/-- The editor after keys, in steps that can fail. -/
def afterKeysChecked (e : LineEditor) (keys : List Key) : Except Crash LineEditor :=
  keys.foldlM (fun e k => (e.pressChecked k).map (·.1)) e

/-- The line with a prompt, in steps that can fail. -/
def lineChecked (e : LineEditor) (prompt : String) : Except Crash (List Span) := do
  let (front, back) ← cut e.text (offsetOf e.text e.cursor)
  .ok [.styled prompt (.colored .yellow), ⟨front, .plain⟩,
    ⟨[back.headD ' '], (Style.colored .black).onGround .yellow⟩, ⟨back.tail, .plain⟩]

/-- A line is never cut inside a character. -/
theorem lineChecked_eq (e : LineEditor) (prompt : String) : e.lineChecked prompt = .ok (e.line prompt) := by
  rw [lineChecked, cut_offsetOf, ok_bind]
  rfl

end LineEditor

/-- A text divided in two: what stands in front of the cursor and what stands behind it. -/
structure Zipper where
  before : List Char
  after : List Char
deriving DecidableEq

namespace Zipper

open Checked

/-- The whole text. -/
def text (z : Zipper) : List Char := z.before ++ z.after

/-- A text up to and with its last space; nothing if it has none. -/
def upToLastSpace : List Char → List Char
  | [] => []
  | c :: cs => if ' ' ∈ cs then c :: upToLastSpace cs else if c = ' ' then [' '] else []

/-- What a key with Control does. -/
def chord (z : Zipper) : Char → Zipper
  | 'a' => ⟨[], z.text⟩
  | 'e' => ⟨z.text, []⟩
  | 'u' => ⟨[], z.after⟩
  | 'w' => ⟨upToLastSpace (Text.trimEnd z.before), z.after⟩
  | _ => z

/-- The last character in front of the cursor comes to stand behind it. -/
def left (z : Zipper) : Zipper :=
  match z.before.getLast? with
  | some c => ⟨z.before.dropLast, c :: z.after⟩
  | none => z

/-- The first character behind the cursor comes to stand in front of it. -/
def right (z : Zipper) : Zipper :=
  match z.after with
  | c :: rest => ⟨z.before ++ [c], rest⟩
  | [] => z

/-- What a key does. -/
def press (z : Zipper) (k : Key) : Zipper :=
  match k.code with
  | .backspace => ⟨z.before.dropLast, z.after⟩
  | .delete => ⟨z.before, z.after.tail⟩
  | .left => z.left
  | .right => z.right
  | .home => ⟨[], z.text⟩
  | .finish => ⟨z.text, []⟩
  | .char c => if k.control then z.chord c else ⟨z.before ++ [c], z.after⟩
  | _ => z

/-- The two texts after keys. -/
def afterKeys (z : Zipper) (keys : List Key) : Zipper := keys.foldl press z

/-- The line editor whose cursor divides its text so. -/
def editor (z : Zipper) : LineEditor := ⟨z.text, z.before.length⟩

theorem upToLastSpace_of_not_mem {cs : List Char} (h : ' ' ∉ cs) : upToLastSpace cs = [] := by
  cases cs with
  | nil => rfl
  | cons c cs =>
    simp only [List.mem_cons, not_or] at h
    rw [upToLastSpace, if_neg h.2, if_neg (Ne.symm h.1)]

theorem upToLastSpace_append {word : List Char} (h : ' ' ∉ word) (front : List Char) :
    upToLastSpace (front ++ ' ' :: word) = front ++ [' '] := by
  induction front with
  | nil => rw [List.nil_append, upToLastSpace, if_neg h, if_pos rfl, List.nil_append]
  | cons c front ih =>
    have hmem : ' ' ∈ front ++ ' ' :: word := by simp
    rw [List.cons_append, upToLastSpace, if_pos hmem, ih, List.cons_append]

/-- What the deletion of the last word leaves. -/
theorem upToLastSpace_trimEnd (cs : List Char) :
    upToLastSpace (Text.trimEnd cs) = LineEditor.withoutLastWord cs := by
  obtain ⟨word, blanks, htrim, -, hspace, hkept⟩ := LineEditor.withoutLastWord_cases cs
  rw [htrim]
  rcases hkept with hnil | ⟨front, hfront⟩
  · rw [hnil, List.nil_append, upToLastSpace_of_not_mem hspace]
  · rw [hfront, List.append_assoc, List.singleton_append, upToLastSpace_append hspace]

theorem before_editor (z : Zipper) : z.editor.before = z.before := List.take_left

theorem after_editor (z : Zipper) : z.editor.after = z.after := List.drop_left

theorem cursor_editor_le (z : Zipper) : z.editor.cursor ≤ z.editor.text.length := by
  rw [editor, text, List.length_append]
  exact Nat.le_add_right _ _

theorem replaceBefore_editor (z : Zipper) (cs : List Char) :
    z.editor.replaceBefore cs = editor ⟨cs, z.after⟩ := by
  rw [LineEditor.replaceBefore, after_editor]
  rfl

theorem editor_left (z : Zipper) : z.left.editor = { z.editor with cursor := z.editor.cursor - 1 } := by
  unfold left
  split
  · next c hlast =>
    obtain ⟨front, hfront⟩ := List.getLast?_eq_some_iff.1 hlast
    simp [editor, text, hfront]
  · next hnone =>
    have hnil := List.getLast?_eq_none_iff.1 hnone
    simp [editor, text, hnil]

theorem editor_right (z : Zipper) : z.right.editor =
    { z.editor with cursor := min (z.editor.cursor + 1) z.editor.text.length } := by
  unfold right
  split
  · next c rest hafter =>
    simp [editor, text, hafter]
  · next hnil => simp [editor, text, hnil]

theorem editor_delete (z : Zipper) : editor ⟨z.before, z.after.tail⟩ =
    { z.editor with text := z.editor.text.eraseIdx z.editor.cursor } := by
  simp [editor, text, List.eraseIdx_append_of_length_le]

/-- What a key with Control does to the editor. -/
theorem control?_editor (z : Zipper) (c : Char) :
    (z.editor.control? c).getD z.editor = (z.chord c).editor := by
  by_cases hchord : c ∈ ['a', 'e', 'u', 'w']
  · simp only [List.mem_cons, List.not_mem_nil, or_false] at hchord
    rcases hchord with rfl | rfl | rfl | rfl
    · simp [LineEditor.control?, chord, editor, text]
    · simp [LineEditor.control?, chord, editor, text]
    · exact replaceBefore_editor z []
    · show z.editor.replaceBefore (LineEditor.withoutLastWord z.editor.before) = _
      rw [before_editor, replaceBefore_editor, ← upToLastSpace_trimEnd]
      rfl
  · have hnone : z.editor.control? c = none := by
      unfold LineEditor.control?
      split <;> first | rfl | exact absurd (by simp) hchord
    have hsame : z.chord c = z := by
      unfold chord
      split <;> first | rfl | exact absurd (by simp) hchord
    rw [hnone, hsame]
    rfl

/-- What a key does to the editor, it does to the two texts. -/
theorem press_editor (z : Zipper) (k : Key) : (z.editor.press k).1 = (z.press k).editor := by
  unfold LineEditor.press LineEditor.edit? press
  cases k.code with
  | backspace =>
    rw [before_editor]
    exact replaceBefore_editor z _
  | delete => exact (editor_delete z).symm
  | left => exact (editor_left z).symm
  | right => exact (editor_right z).symm
  | home => simp [editor, text]
  | finish => simp [editor, text]
  | char c =>
    dsimp only
    cases k.control with
    | true =>
      have hchord := control?_editor z c
      cases hcontrol : z.editor.control? c with
      | none =>
        rw [hcontrol] at hchord
        simpa only [if_true, hcontrol, Option.getD_none] using hchord
      | some e =>
        rw [hcontrol] at hchord
        simpa only [if_true, hcontrol, Option.getD_some] using hchord
    | false =>
      rw [before_editor]
      exact replaceBefore_editor z _
  | _ => rfl

/-- No key makes the text longer by more than one character. -/
theorem length_press_le (z : Zipper) (k : Key) : (z.press k).text.length ≤ z.text.length + 1 := by
  have hholds : z.editor.Holds z.text.length := ⟨cursor_editor_le z, Nat.le_refl _⟩
  have hpress := (hholds.press k).short
  rwa [press_editor] at hpress

/-! ## After any keys -/

theorem afterKeys_editor (z : Zipper) (keys : List Key) :
    z.editor.afterKeys keys = (z.afterKeys keys).editor := by
  induction keys generalizing z with
  | nil => rfl
  | cons k keys ih =>
    show (z.editor.press k).1.afterKeys keys = ((z.press k).afterKeys keys).editor
    rw [press_editor, ih]

/-- Keys stop the editor in no other way than by a count of a text that is too long. -/
theorem afterKeysChecked_cases (z : Zipper) (keys : List Key) :
    z.editor.afterKeysChecked keys = .ok (z.afterKeys keys).editor ∨
      z.editor.afterKeysChecked keys = .error .count ∧
        wordSize ≤ 4 * (z.text.length + keys.length) + 4 := by
  induction keys generalizing z with
  | nil => exact .inl rfl
  | cons k keys ih =>
    have hkeys : z.editor.afterKeysChecked (k :: keys) =
        ((z.editor.pressChecked k).map (·.1) >>= fun e => e.afterKeysChecked keys) := rfl
    have hlength := z.length_press_le k
    rw [hkeys, LineEditor.pressChecked_eq_counted (cursor_editor_le z), List.length_cons]
    rcases LineEditor.exists_counted (cursor_editor_le z) k with ⟨m, hm⟩ | ⟨hm, hlong⟩
    · rw [hm]
      show (z.editor.press k).1.afterKeysChecked keys = .ok ((z.press k).afterKeys keys).editor ∨
        (z.editor.press k).1.afterKeysChecked keys = .error .count ∧ _
      rw [press_editor]
      refine (ih (z.press k)).imp_right fun ⟨herror, hlong⟩ => ⟨herror, ?_⟩
      omega
    · rw [hm]
      refine .inr ⟨rfl, ?_⟩
      have htext : z.editor.text.length = z.text.length := rfl
      omega

/-- A text that a cursor divides in two, after any keys: the editor and the program, which cuts bytes, hold
the two texts that the keys leave, the cursor stands between them, no text is cut where no character
starts, and a line shows the prompt, the first text, the first character of the second one, or a space,
and what is left of it. -/
theorem typed_as_zipper (start : Zipper) (keys : List Key) :
    let z := start.afterKeys keys
    let e := start.editor.afterKeys keys
    (0 ≤ e.cursor ∧ e.cursor ≤ e.text.length) ∧
      e.before = z.before ∧ e.after = z.after ∧ e.text = z.before ++ z.after ∧
      (start.editor.afterKeysChecked keys = .ok e ∨
        start.editor.afterKeysChecked keys = .error .count ∧
          wordSize ≤ 4 * (start.text.length + keys.length) + 4) ∧
      ∀ prompt : String, e.lineChecked prompt = .ok (e.line prompt) ∧
        (e.line prompt).map (·.text) = [prompt.toList, z.before, [z.after.headD ' '], z.after.tail] ∧
        Span.lineText (e.line prompt) =
          prompt.toList ++ (e.text ++ if z.after.isEmpty then [' '] else []) := by
  intro z e
  have heditor : e = z.editor := afterKeys_editor start keys
  refine ⟨⟨Nat.zero_le _, ?_⟩, ?_, ?_, ?_, ?_, ?_⟩
  · rw [heditor]
    exact cursor_editor_le z
  · rw [heditor, before_editor]
  · rw [heditor, after_editor]
  · rw [heditor]
    rfl
  · rw [heditor]
    exact afterKeysChecked_cases start keys
  · intro prompt
    have hafter : e.after = z.after := by rw [heditor, after_editor]
    refine ⟨e.lineChecked_eq prompt, ?_, ?_⟩
    · rw [heditor]
      simp [LineEditor.line, Span.styled, before_editor, after_editor]
    · rw [← hafter]
      exact e.lineText_line prompt

/-- Control and `w` behind a word and a blank that is not a space. -/
example : (⟨"ab б\u00a0".toList, ['c']⟩ : Zipper).press { code := .char 'w', control := true } =
    ⟨"ab ".toList, ['c']⟩ := by decide +kernel

end Zipper

end Lookout
