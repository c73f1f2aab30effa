import Lookout.Screen.Canvas

/-!
# List boxes

A list of rows of which one may be selected. Between two pictures a list box keeps the selected row and
the first row on display; a picture moves them as little as it must to show the selected row.

* **`settle_index_lt`** — after settling, the selected row is one of the list.
-/

namespace Lookout

/-- The selected row of a list box and the first row on display. -/
structure Selection where
  index : Option Nat
  offset : Nat
deriving DecidableEq, Inhabited

namespace Selection

/-- No row is selected. -/
def none : Selection := ⟨.none, 0⟩

/-- The greatest number of a row. -/
def lastIndex : Nat := 0x10000000000000000 - 1

/-- Selects the next row, or the first if none is selected. -/
def next (s : Selection) : Selection :=
  { s with index := some (match s.index with
    | .none => 0
    | some i => min (i + 1) lastIndex) }

/-- Selects the row before, or the last possible one if none is selected. -/
def previous (s : Selection) : Selection :=
  { s with index := some (match s.index with
    | .none => lastIndex
    | some i => i - 1) }

/-- Keeps the selected row inside a list of `count` rows, and selects the first if none is selected. -/
def settle (s : Selection) (count : Nat) : Selection :=
  if count = 0 then .none
  else { s with index := some (min (s.index.getD 0) (count - 1)) }

/-- After settling, the selected row is one of the list. -/
theorem settle_index_lt {s : Selection} {count i : Nat} (h : (s.settle count).index = some i) :
    i < count := by
  unfold settle at h
  split at h
  · cases h
  · cases h
    omega

/-- The first row on display and the first one after those on display, if `height` of `count` rows can be
seen. -/
def bounds (s : Selection) (count height : Nat) : Nat × Nat :=
  let first := min s.offset (count - 1)
  let last := min (first + height) count
  match s.index with
  | .none => (first, last)
  | some i =>
    if last ≤ i then (i + 1 - height, i + 1)
    else if i < first then (i, min last (i + height))
    else (first, last)

/-- The selection when `height` of `count` rows are drawn. -/
def scroll (s : Selection) (count height : Nat) : Selection :=
  if count = 0 then .none
  else
    let s := { s with index := s.index.map (min · (count - 1)) }
    { s with offset := (s.bounds count height).1 }

end Selection

/-- A list of rows, the text in front of the selected one and the style over it. -/
structure ListBox where
  rows : List (List Span)
  pointer : String
  highlight : Style

namespace ListBox

/-- The glyphs of the text in front of the selected row. -/
def pointerGlyphs (b : ListBox) : List Glyph := (Span.plain b.pointer).glyphs

/-- Draws one row. If some row is selected, every row leaves room for the pointer. -/
def drawRow (b : ListBox) (c : Canvas) (r : Rect) (y : Nat) (hasSelection isSelected : Bool)
    (row : List Span) : Canvas :=
  let room := if hasSelection then (Span.plain b.pointer).columns else 0
  let c := c.drawLine y (r.x + room) r.right 0 row
  if isSelected then
    let c := c.drawGlyphs y r.x r.right r.x true b.pointerGlyphs
    c.tint ⟨r.x, y, r.width, 1⟩ b.highlight
  else if hasSelection then
    c.fill ⟨r.x, y, min room r.width, 1⟩ fun _ _ cell => { cell with symbol := [' '] }
  else c

/-- Draws the rows that can be seen. -/
def draw (b : ListBox) (c : Canvas) (r : Rect) (s : Selection) : Selection × Canvas :=
  if r.isEmpty then (s, c)
  else
    let s' := s.scroll b.rows.length r.height
    let clamped := { s' with offset := s.offset }
    let (first, last) := clamped.bounds b.rows.length r.height
    let seen := (b.rows.zipIdx.drop first).take (last - first)
    (s', seen.foldl (fun c (row, i) =>
      b.drawRow c r (r.y + (i - first)) s'.index.isSome (s'.index = some i) row) c)

end ListBox

end Lookout
