import Lookout.Screen.Span
import Lookout.Text.Blank
import Lookout.Text.Lines

/-!
# Wrapping text

Breaking the lines of a text into rows of a given width. A row ends at the last blank that leaves room for
the word after it, blanks at the start of a line and around a break are dropped, and a word that is wider
than a row is cut.
-/

namespace Lookout

/-- The glyph is a place to break a line: all blank, but not the blank that keeps words together. -/
def Glyph.isBreak (g : Glyph) : Bool :=
  g.symbol = ['\u200b'] || (g.symbol.all Text.isBlank && g.symbol ≠ ['\u00a0'])

/-- A line that is being wrapped: the finished rows, last one first, the row under way, the blanks after
it and the word after those. `afterWord` holds if the last glyph was no blank. -/
structure Wrapping where
  rows : List (List Glyph)
  row : List Glyph
  gap : List Glyph
  word : List Glyph
  afterWord : Bool
deriving Inhabited

namespace Wrapping

/-- Nothing of a line has been read. -/
def start : Wrapping := ⟨[], [], [], [], false⟩

/-- The row under way with the word. Blanks at the start of a row are dropped. -/
def extended (s : Wrapping) : List Glyph :=
  (if s.row.isEmpty then [] else s.row ++ s.gap) ++ s.word

/-- The word joins the row under way. -/
def joinWord (s : Wrapping) : Wrapping := { s with row := s.extended, gap := [], word := [] }

/-- The blanks without those that fit into `room` columns. -/
def dropFitting (room : Nat) : List Glyph → List Glyph
  | [] => []
  | g :: rest => if room < g.columns then g :: rest else dropFitting (room - g.columns) rest

/-- Takes in one more glyph. -/
def push (s : Wrapping) (g : Glyph) : Wrapping :=
  if g.isBreak then { s with gap := s.gap ++ [g], afterWord := false }
  else { s with word := s.word ++ [g], afterWord := true }

/-- The word is complete before a glyph, or the glyph would make it, or the blanks, wider than a row of
their own. -/
def endsWord (room : Nat) (s : Wrapping) (g : Glyph) : Bool :=
  (s.afterWord && g.isBreak) ||
    (s.row.isEmpty && (room < Glyph.rowColumns s.word + g.columns ||
      room < Glyph.rowColumns s.gap + g.columns))

/-- There is no room for a glyph in the row under way. -/
def isFull (room : Nat) (s : Wrapping) (g : Glyph) : Bool :=
  room ≤ Glyph.rowColumns s.row ||
    (0 < g.columns &&
      room ≤ Glyph.rowColumns s.row + Glyph.rowColumns s.gap + Glyph.rowColumns s.word)

/-- Reads a glyph. One that is wider than a row is passed over, and so is the blank at which a row
ends. -/
def read (room : Nat) (s : Wrapping) (g : Glyph) : Wrapping :=
  if room < g.columns then s
  else
    let s := if endsWord room s g then s.joinWord else s
    if isFull room s g then
      let gap := dropFitting (room - Glyph.rowColumns s.row) s.gap
      let s := { s with rows := s.row :: s.rows, row := [], gap := gap }
      if g.isBreak && gap.isEmpty then s else s.push g
    else s.push g

/-- The rows when the line has been read. -/
def finish (s : Wrapping) : List (List Glyph) :=
  let rows := if s.row.isEmpty && s.word.isEmpty && !s.gap.isEmpty then [] :: s.rows else s.rows
  let rows := if s.extended.isEmpty then rows else s.extended :: rows
  if rows.isEmpty then [[]] else rows.reverse

end Wrapping

/-- The rows of a line that is wrapped to `room` columns. -/
def wrapLine (room : Nat) (line : List Glyph) : List (List Glyph) :=
  (line.foldl (Wrapping.read room) .start).finish

/-- The lines of a text in the plain style. -/
def plainLines (text : String) : List (List Span) :=
  (Text.lines text.toList).map fun line => [⟨line, .plain⟩]

/-- The rows of a text that is wrapped to `room` columns. -/
def wrapText (room : Nat) (text : String) : List (List Glyph) :=
  (plainLines text).flatMap fun line => wrapLine room (line.flatMap Span.glyphs)

end Lookout
