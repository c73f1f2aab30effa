import Lookout.Screen.Canvas
import Lookout.Screen.Fault
import Lookout.Screen.Wrap

/-!
# Paragraphs

Text in a rectangle: lines that are cut at the right edge, or rows that have been wrapped to its width.

* **`columns_fitRow`** — a cut line has no more columns than there is room.
-/

namespace Lookout

/-- The start of a line that fits into `room` columns of which `used` are taken. A glyph that is wider
than the room is passed over. -/
def fitRow (room used : Nat) : List Glyph → List Glyph
  | [] => []
  | g :: rest =>
    if room < g.columns then fitRow room used rest
    else if room < used + g.columns then []
    else g :: fitRow room (used + g.columns) rest

/-- A cut line has no more columns than there is room. -/
theorem columns_fitRow {room used : Nat} (h : used ≤ room) (line : List Glyph) :
    used + Glyph.rowColumns (fitRow room used line) ≤ room := by
  induction line generalizing used with
  | nil => simpa [fitRow] using h
  | cons g rest ih =>
    rw [fitRow]
    split
    · exact ih h
    · split
      · simpa using h
      · next fits =>
        have := ih (Nat.not_lt.1 fits)
        simp only [Glyph.rowColumns]
        omega

/-- The rows of lines that are cut to `room` columns. -/
def cutRows (room : Nat) (lines : List (List Span)) : List (List Glyph) :=
  lines.map fun line => fitRow room 0 (line.flatMap Span.glyphs)

/-- The rows that a window of `height` rows shows after `scroll` of them. -/
def window {α : Type} (scroll height : Nat) (rows : List α) : List α := (rows.drop scroll).take height

/-- The number of rows passed over after scrolling on by `step`, as far as a coordinate goes. -/
def scrollOn (scroll step : Nat) : Nat := min (scroll + step) (coordinateValues - 1)

namespace Canvas

/-- Draws rows one below the other, as many as the rectangle has. -/
def drawRows (c : Canvas) (r : Rect) (rows : List (List Glyph)) : Canvas :=
  if r.isEmpty then c
  else ((rows.take r.height).zipIdx r.y).foldl (fun c (row, y) => c.drawRow y r.x row) c

/-- Draws lines that are cut at the right edge. -/
def drawLines (c : Canvas) (r : Rect) (lines : List (List Span)) : Canvas :=
  c.drawRows r (cutRows r.width (lines.take r.height))

/-- Draws a text that is wrapped. -/
def drawText (c : Canvas) (r : Rect) (text : String) : Canvas :=
  if r.isEmpty then c else c.drawRows r (wrapText r.width text)

/-- Draws lines that are cut at the right edge, after passing over the first `scroll` of them. -/
def drawScrolled (c : Canvas) (r : Rect) (scroll : Nat) (lines : List (List Span)) :
    Except DrawFault Canvas :=
  if r.isEmpty || lines.isEmpty then .ok c
  else if coordinateValues ≤ r.height + scroll then .error .scrolledRows
  else .ok (c.drawLines r (window scroll r.height lines))

end Canvas

end Lookout
