import Lookout.Screen.Fault
import Lookout.Screen.Panel

/-!
# Overlays

Boxes that lie over the upper left of a page while something is typed.

* **`width_le`** — an overlay is no wider than the page.
* **`within_of_area?`** — an overlay lies on the page.
-/

namespace Lookout.Overlay

/-- The width of an overlay on a page of a width: sixty per cent of it, but not less than thirty columns
nor more than sixty, and never more than the page has. -/
def width (room : Nat) : Nat := min (min (max (room * 60 / 100) 30) 60) room

/-- An overlay is no wider than the page. -/
theorem width_le (room : Nat) : width room ≤ room := Nat.min_le_right _ _

/-- Sixty times the width of a page fits into a coordinate. -/
def Fits (room : Nat) : Prop := room * 60 < coordinateValues

instance (room : Nat) : Decidable (Fits room) := inferInstanceAs (Decidable (_ < _))

/-- Where an overlay of a height lies on a page: one cell from its upper left corner. -/
def area? (page : Rect) (height : Nat) : Except DrawFault Rect :=
  if Fits page.width then
    .ok (Rect.intersect ⟨page.x + 1, page.y + 1, width page.width, height⟩ page)
  else .error .overlayWidth

/-- An overlay lies on the page. -/
theorem within_of_area? {page r : Rect} {height : Nat} (h : area? page height = .ok r) :
    r.Within page := by
  unfold area? at h
  split at h
  · cases h
    exact Rect.within_intersect_right _ _
  · cases h

/-- Draws an empty overlay and tells where its inner part is. -/
def draw (c : Canvas) (page : Rect) (height : Nat) (title : String) :
    Except DrawFault (Rect × Canvas) :=
  (area? page height).map fun r =>
    (r.inner, (Panel.left .yellow (.plain title)).draw (c.clear r) r)

end Lookout.Overlay
