import Lookout.Screen.Canvas
import Lookout.Text.Lines

/-!
# Panels

A border around a rectangle with a title in its top edge.

* **`isSome_edge_iff`** — the border is what the rectangle has outside its inner part.
-/

namespace Lookout

/-- A border in a style, and a title in its middle or at its left end. -/
structure Panel where
  border : Style
  title : List Span
  isCentered : Bool
deriving Inhabited

namespace Panel

/-- A panel with its title in the middle. -/
def centered (color : Color) (title : String) : Panel :=
  ⟨.colored color, (Text.lines title.toList).map fun line => ⟨line, .plain⟩, true⟩

/-- A panel with its title at the left end. -/
def left (color : Color) (title : Span) : Panel := ⟨.colored color, [title], false⟩

/-- What the border of a rectangle has in a column and a row. -/
def edge? (r : Rect) (x y : Nat) : Option Char :=
  let isTop := y = r.y
  let isBottom := y + 1 = r.bottom
  let isLeft := x = r.x
  let isRight := x + 1 = r.right
  if isLeft && isTop then some '┌'
  else if isLeft && isBottom then some '└'
  else if isRight && isTop then some '┐'
  else if isRight && isBottom then some '┘'
  else if isTop || isBottom then some '─'
  else if isLeft || isRight then some '│'
  else none

/-- The border is what the rectangle has outside its inner part. -/
theorem isSome_edge_iff {r : Rect} {x y : Nat} (h : r.Has x y) :
    (edge? r x y).isSome ↔ ¬ r.inner.Has x y := by
  simp only [Rect.Has, Rect.inner, Rect.right, Rect.bottom] at h ⊢
  unfold edge?
  simp only [Rect.right, Rect.bottom]
  grind

/-- Draws the border. -/
def drawBorder (p : Panel) (c : Canvas) (r : Rect) : Canvas :=
  c.fill r fun x y cell =>
    match edge? r x y with
    | some symbol => cell.put ⟨[symbol], 1, p.border⟩
    | none => cell

/-- Where a title of `claim` columns goes in the middle of `room` columns: the columns in front of it, the
columns that it gets, and the columns of its start that are passed over. A title that is too wide loses
half of what is too much at its start, and what it gets is as much less. -/
def centerTitle (room claim : Nat) : Nat × Nat × Nat :=
  if claim ≤ room then ((room - claim) / 2, claim, 0)
  else
    let lost := (claim - room) / 2
    if 0 < lost then (0, room - lost, claim - (room - lost)) else (0, room, 0)

/-- Draws the title. -/
def drawTitle (p : Panel) (c : Canvas) (r : Rect) : Canvas :=
  let room := r.width - 2
  let claim := Span.lineColumns p.title
  let (indent, width, skip) := if p.isCentered then centerTitle room claim else (0, min claim room, 0)
  let start := r.x + 1 + indent
  c.drawLine r.y start (start + width) skip p.title

/-- Draws the panel. -/
def draw (p : Panel) (c : Canvas) (r : Rect) : Canvas :=
  if r.isEmpty then c else p.drawTitle (p.drawBorder c r) r

end Panel

end Lookout
