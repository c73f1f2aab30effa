import Lookout.Proofs.Screen.Wrapping
import Lookout.Screen.Toast

/-!
# Heights of toasts

A toast is as high as the number of characters in its message asks for, and its message is wrapped between
words. Where the rows of the message are not as many as its characters would fill, the toast has another height
than its text needs: it can be too low for the last row, or too high by one.

* **`height_cases`** — the height by the number of characters.
* **`drawOne_eq`** — which rows of the text are drawn.
* **`height_as_needed`** — for which messages the toast is as high as its text needs and shows all of it.
-/

namespace Lookout

open Glyph

namespace Toast

/-- The height that the text of a toast needs: a border and one to three rows. -/
def needed (message : String) (width : Nat) : Nat := 2 + min (max (wrapText (width - 2) message).length 1) 3

/-- The rows of its text for which a toast has room. -/
def shownRows (message : String) (width : Nat) : List (List Glyph) :=
  (wrapText (width - 2) message).take (height message width - 2)

variable {message : String} {width : Nat}

/-- One row of text for each started row of characters, and three at most. -/
theorem height_cases (message : String) (wide : 4 ≤ width) :
    height message width = 3 ∧ message.length ≤ width - 2 ∨
    height message width = 4 ∧ width - 2 < message.length ∧ message.length ≤ 2 * (width - 2) ∨
    height message width = 5 ∧ 2 * (width - 2) < message.length := by
  have hroom : max (width - 2) 1 = width - 2 := by omega
  have hrows (k : Nat) : (message.length + (width - 2) - 1) / (width - 2) ≤ k ↔
      message.length ≤ k * (width - 2) := by
    rw [← Nat.lt_succ_iff, Nat.div_lt_iff_lt_mul (by omega), Nat.succ_mul]
    omega
  have hone := hrows 1
  have htwo := hrows 2
  rw [Nat.one_mul] at hone
  rw [height, hroom]
  omega

/-- All rows are shown if there is room for them. -/
theorem shownRows_eq_iff :
    shownRows message width = wrapText (width - 2) message ↔
      (wrapText (width - 2) message).length + 2 ≤ height message width := by
  have hheight := (height_le message width).1
  rw [shownRows, List.take_eq_self_iff]
  omega

/-- What is drawn into the box of a toast are the rows for which it has room. -/
theorem drawOne_eq (c : Canvas) (n : Notification) {r : Rect} (zone : Time.Zone) (wide : 4 ≤ r.width)
    (high : r.height = height n.message r.width) :
    drawOne c n r zone =
      ((shownRows n.message r.width).zipIdx (r.y + 1)).foldl (fun c (row, y) => c.drawRow y (r.x + 1) row)
        ((frame n zone).draw (c.clear r) r) := by
  have hheight := (height_le n.message r.width).1
  have hfilled : r.inner.isEmpty = false := by
    have hwidth : ¬ r.width - 2 = 0 := by omega
    have hrows : ¬ r.height - 2 = 0 := by omega
    simp [Rect.isEmpty, Rect.inner, hwidth, hrows]
  have hleft : r.inner.x = r.x + 1 := by
    simp only [Rect.inner, Rect.right]
    omega
  have htop : r.inner.y = r.y + 1 := by
    simp only [Rect.inner, Rect.bottom]
    omega
  have hrows : (wrapText r.inner.width n.message).take r.inner.height = shownRows n.message r.width := by
    rw [shownRows, ← high]
    rfl
  rw [drawOne, Canvas.drawText, hfilled, if_neg (by decide), Canvas.drawRows, hfilled, if_neg (by decide),
    hrows, hleft, htop]

/-! ## Narrow messages -/

/-- A narrow message is wrapped as one line. -/
theorem wrapText_of_narrow {room : Nat} (narrow : ∀ c ∈ message.toList, Text.isNarrow c = true)
    (filled : message.toList ≠ []) : wrapText room message = wrapLine room (Span.plain message).glyphs := by
  rw [wrapText, plainLines, Text.lines_of_narrow narrow filled, List.map_singleton, List.flatMap_singleton,
    List.flatMap_singleton]
  rfl

/-- The glyphs of a narrow message are as many as its characters and take one column each. -/
theorem glyphs_message (narrow : ∀ c ∈ message.toList, Text.isNarrow c = true) :
    (Span.plain message).glyphs.length = message.length ∧
      ∀ g ∈ (Span.plain message).glyphs, g.columns = 1 := by
  rw [Span.plain, glyphs_of_narrow .plain narrow, List.length_map, String.length_toList]
  exact ⟨rfl, List.forall_mem_map.2 fun _ _ => rfl⟩

/-- A message of one word is cut into full rows. -/
theorem length_wrapText_of_word {room : Nat} (narrow : ∀ c ∈ message.toList, Text.isNarrow c = true)
    (word : ∀ g ∈ (Span.plain message).glyphs, g.isBreak = false) (pos : 0 < room) :
    (wrapText room message).length = (message.length + room - 1) / room := by
  obtain ⟨hlength, hone⟩ := glyphs_message narrow
  by_cases hfilled : message.toList = []
  · have hnone : message.length = 0 := by rw [← String.length_toList, hfilled, List.length_nil]
    rw [wrapText, plainLines, hfilled, hnone, Nat.div_eq_of_lt (by omega)]
    rfl
  · have hglyphs : (Span.plain message).glyphs ≠ [] := by
      rwa [ne_eq, ← List.length_eq_zero_iff, hlength, ← String.length_toList, List.length_eq_zero_iff]
    rw [wrapText_of_narrow narrow hfilled, length_wrapLine_of_word pos hone word hglyphs, hlength]

/-- A toast of at least four columns draws the rows of its text for which it has room. It is as high as its text
needs exactly if the rows of the text, counted up to three, are as many as its characters fill, and shows all of
it exactly if they are not more, and not more than three.

If every character of the message is drawn by itself in one column, and single blanks stand between its words,
no row is too wide. Then the toast has the right height for every message that has no more characters than a row
has columns, or more than two rows have and another one. Between those, the text has to take two rows, or three
with one character more than two rows have. A text of up to two rows is always shown, and one of three rows
exactly if it has more characters than two rows have columns.

If the message is one word, the height is what the text needs. -/
theorem height_as_needed (message : String) {width : Nat} (wide : 4 ≤ width) :
    let room := width - 2
    let rows := wrapText room message
    let glyphs := (Span.plain message).glyphs
    (∀ (c : Canvas) (n : Notification) (r : Rect) (zone : Time.Zone), n.message = message →
      r.width = width → r.height = height message width →
      drawOne c n r zone =
        ((shownRows message width).zipIdx (r.y + 1)).foldl (fun c (row, y) => c.drawRow y (r.x + 1) row)
          ((Panel.left n.kind.color (Span.styled (title n.kind.label n.createdAt zone)
            (.strong n.kind.color))).draw (c.clear r) r)) ∧
    (height message width = needed message width ↔
      rows.length ≤ 1 ∧ message.length ≤ room ∨
      rows.length = 2 ∧ room < message.length ∧ message.length ≤ 2 * room ∨
      3 ≤ rows.length ∧ 2 * room < message.length) ∧
    (shownRows message width = rows ↔
      rows.length ≤ 1 ∨ rows.length = 2 ∧ room < message.length ∨
      rows.length = 3 ∧ 2 * room < message.length) ∧
    ((∀ c ∈ message.toList, Text.isNarrow c = true) →
      (isSpaced false glyphs = true →
        (∀ row ∈ rows, rowColumns row ≤ room) ∧
        (height message width = needed message width ↔
          (room < message.length → message.length ≤ 2 * room → rows.length = 2) ∧
          (message.length = 2 * room + 1 → 3 ≤ rows.length)) ∧
        (shownRows message width = rows ↔
          rows.length ≤ 2 ∨ rows.length = 3 ∧ 2 * room < message.length)) ∧
      ((∀ g ∈ glyphs, g.isBreak = false) →
        height message width = needed message width ∧
        (rows.length ≤ 3 → shownRows message width = rows))) := by
  intro room rows glyphs
  have hcases := height_cases message wide
  have hshown : shownRows message width = rows ↔ rows.length + 2 ≤ height message width := shownRows_eq_iff
  have hneeded : needed message width = 2 + min (max rows.length 1) 3 := rfl
  have hheight : height message width = needed message width ↔
      rows.length ≤ 1 ∧ message.length ≤ room ∨
      rows.length = 2 ∧ room < message.length ∧ message.length ≤ 2 * room ∨
      3 ≤ rows.length ∧ 2 * room < message.length := by
    rw [hneeded]
    omega
  refine ⟨?_, hheight, ?_, fun narrow => ⟨fun spaced => ?_, fun word => ?_⟩⟩
  · rintro c n r zone rfl rfl high
    exact drawOne_eq c n zone wide high
  · rw [hshown]
    omega
  · obtain ⟨hlength, hone⟩ := glyphs_message narrow
    have hfilled : message.toList ≠ [] := by
      intro hnone
      have hglyphs : glyphs = [] := by
        rw [← List.length_eq_zero_iff, hlength, ← String.length_toList, hnone, List.length_nil]
      rw [hglyphs] at spaced
      exact Bool.false_ne_true spaced
    have hrows : rows = wrapLine room glyphs := wrapText_of_narrow narrow hfilled
    have hroom : 0 < room := by omega
    obtain ⟨hfits, hpos, hsingle, hlost⟩ := wrapLine_of_spaced hroom hone spaced
    rw [← hrows, hlength] at hsingle hlost
    rw [← hrows] at hfits hpos
    have htwo (h : rows.length = 2) : message.length ≤ 2 * room + 1 := by
      rw [h] at hlost
      omega
    refine ⟨hfits, ?_, ?_⟩
    · rw [hheight]
      omega
    · rw [hshown]
      omega
  · have hrows : rows.length = (message.length + room - 1) / room :=
      length_wrapText_of_word narrow word (by omega)
    have hroom : max (width - 2) 1 = room := Nat.max_eq_left (by omega)
    have hequal : height message width = needed message width := by
      rw [height, hroom, hneeded, hrows, Nat.add_comm]
    refine ⟨hequal, fun hthree => ?_⟩
    rw [hshown, hequal, hneeded]
    omega

/-- A message of 41 characters. -/
def timedOut : String := "Failed to load chats: timed out after 20s"

/-- In 18 columns it takes three rows, and has more characters than two rows have columns. -/
theorem timedOut_shown :
    4 ≤ 20 ∧ (wrapText 18 timedOut).length = 3 ∧ height timedOut 20 = needed timedOut 20 ∧
      shownRows timedOut 20 = wrapText 18 timedOut := by
  have hrows : (wrapText 18 timedOut).length = 3 := by decide +kernel
  have hlength : 2 * 18 < timedOut.length := by decide +kernel
  have hnarrow : timedOut.toList.all Text.isNarrow = true := by decide +kernel
  have hall := @height_as_needed timedOut 20 (by decide)
  obtain ⟨hspaced, -⟩ := hall.2.2.2 (List.all_eq_true.1 hnarrow)
  obtain ⟨-, hheight, hshown⟩ := hspaced (by decide +kernel)
  have hright : height timedOut 20 = needed timedOut 20 :=
    hheight.2 ⟨fun _ hle => absurd hlength (Nat.not_lt.2 hle), fun _ => Nat.le_of_eq hrows.symm⟩
  exact ⟨by decide, hrows, hright, hshown.2 (.inr ⟨hrows, hlength⟩)⟩

/-- A message with a long word in the middle, which takes a row of its own. -/
def longKey : String := "Failed to load chats:u2i-5f0c9a7e4b1d2c: timed out after 20s"

/-- Its 60 characters would fill two rows of 30 columns, but its words take three: the toast is too low, and does
not show what went wrong. -/
theorem longKey_cut :
    height longKey 32 = 4 ∧ needed longKey 32 = 5 ∧
    (wrapText 30 longKey).map (·.flatMap Glyph.symbol) =
      ["Failed to load".toList, "chats:u2i-5f0c9a7e4b1d2c:".toList, "timed out after 20s".toList] ∧
    (shownRows longKey 32).map (·.flatMap Glyph.symbol) =
      ["Failed to load".toList, "chats:u2i-5f0c9a7e4b1d2c:".toList] := by
  decide +kernel

end Toast

end Lookout
