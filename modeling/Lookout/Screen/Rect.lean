/-!
# Rectangles

Parts of the screen. The first column and row belong to a rectangle; `right` and `bottom` are the first
that do not.

* **`within_intersect_right`** — the common part of two rectangles lies in both.
* **`within_inner`** — what a border leaves lies in the rectangle.
-/

namespace Lookout

/-- A part of the screen. -/
structure Rect where
  x : Nat
  y : Nat
  width : Nat
  height : Nat
deriving DecidableEq, Inhabited, Repr

namespace Rect

/-- The first column on the right of the rectangle. -/
def right (r : Rect) : Nat := r.x + r.width

/-- The first row below the rectangle. -/
def bottom (r : Rect) : Nat := r.y + r.height

/-- The rectangle has no cell. -/
def isEmpty (r : Rect) : Bool := r.width = 0 || r.height = 0

/-- The cell in column `x` and row `y` belongs to the rectangle. -/
def Has (r : Rect) (x y : Nat) : Prop := r.x ≤ x ∧ x < r.right ∧ r.y ≤ y ∧ y < r.bottom

instance (r : Rect) (x y : Nat) : Decidable (r.Has x y) := inferInstanceAs (Decidable (_ ∧ _))

/-- Every cell of the rectangle belongs to the other one. -/
def Within (r s : Rect) : Prop := ∀ x y, r.Has x y → s.Has x y

/-- The common part of two rectangles. -/
def intersect (r s : Rect) : Rect where
  x := max r.x s.x
  y := max r.y s.y
  width := min r.right s.right - max r.x s.x
  height := min r.bottom s.bottom - max r.y s.y

/-- What a border of one cell leaves of the rectangle. -/
def inner (r : Rect) : Rect where
  x := min (r.x + 1) r.right
  y := min (r.y + 1) r.bottom
  width := r.width - 2
  height := r.height - 2

/-- The rows of the rectangle cut below the first `n` rows. -/
def splitTop (r : Rect) (n : Nat) : Rect × Rect :=
  let top := min n r.height
  ({ r with height := top }, { r with y := r.y + top, height := r.height - top })

/-- The columns of the rectangle cut before the last `n` columns. -/
def splitRight (r : Rect) (n : Nat) : Rect × Rect :=
  let last := min n r.width
  ({ r with width := r.width - last }, { r with x := r.right - last, width := last })

theorem has_intersect {r s : Rect} {x y : Nat} :
    (r.intersect s).Has x y ↔ r.Has x y ∧ s.Has x y := by
  simp only [Has, intersect, right, bottom]
  omega

theorem within_intersect_left (r s : Rect) : (r.intersect s).Within r :=
  fun _ _ h => (has_intersect.1 h).1

/-- The common part of two rectangles lies in both. -/
theorem within_intersect_right (r s : Rect) : (r.intersect s).Within s :=
  fun _ _ h => (has_intersect.1 h).2

/-- What a border leaves lies in the rectangle. -/
theorem within_inner (r : Rect) : r.inner.Within r := by
  intro x y
  simp only [Has, inner, right, bottom]
  omega

end Rect

end Lookout
