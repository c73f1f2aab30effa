import Lookout.Screen.Style
import Lookout.Text.Cluster
import Lookout.Text.Width

/-!
# Spans and glyphs

A line to draw is a list of spans, each a text in one style. A span is drawn glyph by glyph: a glyph is a
cluster of characters with the columns that it takes.

* **`rowColumns_append`** — the columns of two rows of glyphs add up.
-/

namespace Lookout

/-- A cluster of characters that is drawn as one, the columns that it takes, and its style. -/
structure Glyph where
  symbol : List Char
  columns : Nat
  style : Style
deriving DecidableEq, Inhabited

namespace Glyph

/-- The columns of a row of glyphs. -/
def rowColumns : List Glyph → Nat
  | [] => 0
  | g :: rest => g.columns + rowColumns rest

@[simp] theorem rowColumns_nil : rowColumns [] = 0 := rfl

/-- The columns of two rows of glyphs add up. -/
@[simp] theorem rowColumns_append (gs hs : List Glyph) :
    rowColumns (gs ++ hs) = rowColumns gs + rowColumns hs := by
  induction gs with
  | nil => simp [rowColumns]
  | cons g rest ih => simp [rowColumns, ih, Nat.add_assoc]

end Glyph

/-- A text in one style. -/
structure Span where
  text : List Char
  style : Style
deriving DecidableEq, Inhabited

namespace Span

/-- A span in the plain style. -/
def plain (s : String) : Span := ⟨s.toList, .plain⟩

/-- A span in a style. -/
def styled (s : String) (style : Style) : Span := ⟨s.toList, style⟩

/-- The columns that a span has a claim to. -/
def columns (s : Span) : Nat := Text.width s.text

/-- The glyphs of a span. Line feeds are not drawn. -/
def glyphs (s : Span) : List Glyph :=
  ((Text.clusters s.text).filter (· ≠ ['\n'])).map fun g => ⟨g, Text.width g, s.style⟩

/-- The columns that the spans of a line have a claim to. -/
def lineColumns : List Span → Nat
  | [] => 0
  | s :: rest => s.columns + lineColumns rest

/-- The text of a line. -/
def lineText (line : List Span) : List Char := line.flatMap text

/-- The longest end of a span that takes at most `room` columns, and the columns that it takes. -/
def takeEnd (s : Span) (room : Nat) : Span × Nat :=
  let kept := (Text.clusters s.text).reverse.foldl (fun (kept, used, isOpen) g =>
    let used' := used + Text.width g
    if isOpen && used' ≤ room then (g :: kept, used', true) else (kept, used, false))
    (([] : List (List Char)), 0, true)
  (⟨kept.1.flatten, s.style⟩, kept.2.1)

end Span

end Lookout
