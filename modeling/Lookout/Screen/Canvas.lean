import Lookout.Screen.Rect
import Lookout.Screen.Span

/-!
# The canvas

The cells of the screen while a picture is drawn, and what a terminal shows of them. A wide glyph stands
in one cell and covers the next, which the terminal leaves blank.

* **`cell_update`** — a change is seen in its own place only.
-/

namespace Lookout

/-- One cell of the screen. -/
structure Cell where
  symbol : List Char
  style : Style
deriving DecidableEq, Inhabited

namespace Cell

/-- A cell with nothing in it. -/
def blank : Cell := ⟨[' '], .plain⟩

/-- The cell with a style laid over it. -/
def tint (c : Cell) (s : Style) : Cell := { c with style := s.above c.style }

/-- The cell with a glyph in it. -/
def put (c : Cell) (g : Glyph) : Cell := ⟨g.symbol, g.style.above c.style⟩

/-- The cell with a glyph added to what is in it. -/
def add (c : Cell) (g : Glyph) : Cell := ⟨c.symbol ++ g.symbol, g.style.above c.style⟩

end Cell

/-- The cells of the screen, row by row. -/
structure Canvas where
  width : Nat
  height : Nat
  cells : Array Cell
  size_cells : cells.size = width * height

namespace Canvas

/-- A canvas without anything on it. -/
def blank (width height : Nat) : Canvas where
  width := width
  height := height
  cells := .replicate (width * height) .blank
  size_cells := Array.size_replicate

/-- The whole canvas. -/
def area (c : Canvas) : Rect := ⟨0, 0, c.width, c.height⟩

/-- The cell in a column and a row. -/
def cell (c : Canvas) (x y : Nat) : Cell :=
  if x < c.width then c.cells.getD (y * c.width + x) .blank else .blank

/-- Changes the cell in a column and a row, if the canvas has it. -/
def update (c : Canvas) (x y : Nat) (f : Cell → Cell) : Canvas :=
  if x < c.width then
    { c with
      cells := c.cells.modify (y * c.width + x) f
      size_cells := by rw [Array.size_modify, c.size_cells] }
  else c

/-- Drawing keeps the width of the canvas. -/
@[simp] theorem update_width (c : Canvas) (x y : Nat) (f : Cell → Cell) :
    (c.update x y f).width = c.width := by
  unfold update
  split <;> rfl

/-- Drawing keeps the height of the canvas. -/
@[simp] theorem update_height (c : Canvas) (x y : Nat) (f : Cell → Cell) :
    (c.update x y f).height = c.height := by
  unfold update
  split <;> rfl

/-- Two cells in different places do not share a place in the list of cells. -/
theorem place_inj {w x y x' y' : Nat} (hx : x < w) (hx' : x' < w)
    (h : y * w + x = y' * w + x') : x = x' ∧ y = y' := by
  have column : (y * w + x) % w = (y' * w + x') % w := by rw [h]
  have row : (y * w + x) / w = (y' * w + x') / w := by rw [h]
  have positive : 0 < w := by omega
  rw [Nat.mul_comm y, Nat.mul_comm y', Nat.mul_add_mod, Nat.mul_add_mod, Nat.mod_eq_of_lt hx,
    Nat.mod_eq_of_lt hx'] at column
  rw [Nat.mul_comm y, Nat.mul_comm y', Nat.mul_add_div positive, Nat.mul_add_div positive,
    Nat.div_eq_of_lt hx, Nat.div_eq_of_lt hx'] at row
  exact ⟨column, by omega⟩

/-- A change is seen in its own place only. -/
theorem cell_update (c : Canvas) {x y : Nat} (hx : x < c.width) (hy : y < c.height)
    (f : Cell → Cell) (x' y' : Nat) :
    (c.update x y f).cell x' y' = if x' = x ∧ y' = y then f (c.cell x y) else c.cell x' y' := by
  have inside : y * c.width + x < c.cells.size := by
    rw [c.size_cells]
    calc y * c.width + x < y * c.width + c.width := by omega
      _ = (y + 1) * c.width := by rw [Nat.add_mul, Nat.one_mul]
      _ ≤ c.height * c.width := Nat.mul_le_mul_right _ hy
      _ = c.width * c.height := Nat.mul_comm _ _
  unfold update
  rw [if_pos hx]
  simp only [cell]
  by_cases hx' : x' < c.width
  · rw [if_pos hx', if_pos hx', if_pos hx]
    by_cases same : x' = x ∧ y' = y
    · obtain ⟨rfl, rfl⟩ := same
      simp [Array.getD_eq_getD_getElem?, inside, Array.getElem_modify]
    · have apart : y * c.width + x ≠ y' * c.width + x' := fun h =>
        same ((place_inj hx hx' h).imp Eq.symm Eq.symm)
      rw [if_neg same]
      simp [Array.getD_eq_getD_getElem?, Array.getElem?_modify, apart]
  · have apart : ¬ (x' = x ∧ y' = y) := by
      rintro ⟨rfl, _⟩
      exact hx' hx
    rw [if_neg hx', if_neg hx', if_neg apart]

/-- Changes every cell of a rectangle. -/
def fill (c : Canvas) (r : Rect) (f : Nat → Nat → Cell → Cell) : Canvas :=
  (List.range' r.y r.height).foldl (fun c y =>
    (List.range' r.x r.width).foldl (fun c x => c.update x y (f x y)) c) c

/-- Empties a rectangle. -/
def clear (c : Canvas) (r : Rect) : Canvas := c.fill r fun _ _ _ => .blank

/-- Lays a style over a rectangle. -/
def tint (c : Canvas) (r : Rect) (s : Style) : Canvas := c.fill r fun _ _ cell => cell.tint s

/-- Draws glyphs one after the other from column `x`, as long as they end before `right`. A glyph without
columns joins the one in front of it, and so does whatever follows such a glyph in column `left`; a wide
one empties the cells that it covers. -/
def drawGlyphs (c : Canvas) (y left right x : Nat) (isFirst : Bool) : List Glyph → Canvas
  | [] => c
  | g :: rest =>
    if right < x + g.columns then c
    else
      let c :=
        if isFirst then c.update x y (·.put g)
        else if x = left then c.update x y (·.add g)
        else if g.columns = 0 then c.update (x - 1) y (·.add g)
        else c.update x y (·.put g)
      let c := c.clear ⟨x + 1, y, g.columns - 1, 1⟩
      drawGlyphs c y left right (x + g.columns) false rest

/-- What is left of a line whose first `skip` columns are passed over: each span with the columns in front
of it and those that it has a claim to. -/
def spansAfter (skip : Nat) : List Span → List (Nat × Span × Nat)
  | [] => []
  | s :: rest =>
    if s.columns ≤ skip then spansAfter (skip - s.columns) rest
    else if skip = 0 then (0, s, s.columns) :: spansAfter 0 rest
    else
      let (kept, used) := s.takeEnd (s.columns - skip)
      (s.columns - skip - used, kept, used) :: spansAfter 0 rest

/-- Draws spans from column `left`, each where the claims of those before it end. -/
def drawSpans (c : Canvas) (y left right : Nat) : List (Nat × Span × Nat) → Canvas
  | [] => c
  | (indent, s, claim) :: rest =>
    let left := left + indent
    if right ≤ left then c
    else drawSpans (c.drawGlyphs y left right left true s.glyphs) y (left + claim) right rest

/-- Draws a line from column `left`, passing over its first `skip` columns. -/
def drawLine (c : Canvas) (y left right skip : Nat) (line : List Span) : Canvas :=
  c.drawSpans y left right (spansAfter skip line)

/-- Draws a row of glyphs from column `x`, leaving out those without columns. -/
def drawRow (c : Canvas) (y x : Nat) : List Glyph → Canvas
  | [] => c
  | g :: rest =>
    if g.columns = 0 then drawRow c y x rest
    else drawRow (c.update x y (·.put g)) y (x + g.columns) rest

/-- What a terminal shows in a column and a row. -/
def shown (c : Canvas) (x y : Nat) : Cell :=
  if 0 < x && 1 < Text.width (c.cell (x - 1) y).symbol then .blank else c.cell x y

/-- The row that a terminal shows. -/
def shownRow (c : Canvas) (y : Nat) : List Cell := (List.range c.width).map fun x => c.shown x y

/-- The text of the row that a terminal shows, without the spaces at its end. -/
def rowText (c : Canvas) (y : Nat) : List Char :=
  let text := (c.shownRow y).flatMap Cell.symbol
  (text.reverse.dropWhile (· = ' ')).reverse

/-- The text of the screen, row by row. -/
def text (c : Canvas) : List (List Char) := (List.range c.height).map c.rowText

end Canvas

end Lookout
