import Lookout.Notification
import Lookout.Screen.Panel
import Lookout.Screen.Paragraph
import Lookout.Time.Calendar

/-!
# Toasts

The newest notifications in boxes at the right edge of a page, one above the other, the newest at the
bottom.

* **`height_le`** — a toast has three to five rows.
* **`stack_length_le`** — there are no more boxes than notifications.
-/

namespace Lookout

namespace NotificationKind

/-- The colour of a kind of notification. -/
def color : NotificationKind → Color
  | .success => .green
  | .error => .red
  | .info => .cyan
  | .warning => .yellow

/-- What stands in the edge of the box of a kind of notification. -/
def label : NotificationKind → String
  | .success => " ok "
  | .error => " error "
  | .info => " info "
  | .warning => " warning "

end NotificationKind

namespace Toast

/-- The columns of a toast where the page has room for them. -/
def widest : Nat := 48

/-- The columns that a toast needs at least. -/
def narrowest : Nat := 4

/-- How many toasts are drawn at most. -/
def most : Nat := 4

/-- The label with the local time of the day, if the calendar has the time. -/
def title (label : String) (createdAt : Int) (zone : Time.Zone := Time.utc) : String :=
  if Time.covers createdAt then label ++ Time.clockText (createdAt + zone createdAt) ++ " " else label

/-- The rows of the box for a message in a width: a border and one to three rows of text, by the number of
characters. -/
def height (message : String) (width : Nat) : Nat :=
  let room := max (width - 2) 1
  min (max ((message.length + room - 1) / room) 1) 3 + 2

/-- A toast has three to five rows. -/
theorem height_le (message : String) (width : Nat) :
    3 ≤ height message width ∧ height message width ≤ 5 := by
  simp only [height]
  omega

/-- Where boxes of a width lie in a column above the row `bottom`: each above the one before, as long as
there is room below the row `top`. -/
def stack (x top width bottom : Nat) : List Nat → List Rect
  | [] => []
  | height :: rest =>
    if bottom < top + height then []
    else ⟨x, bottom - height, width, height⟩ :: stack x top width (bottom - height) rest

/-- There are no more boxes than notifications. -/
theorem stack_length_le (x top width bottom : Nat) (heights : List Nat) :
    (stack x top width bottom heights).length ≤ heights.length := by
  induction heights generalizing bottom with
  | nil => simp [stack]
  | cons h rest ih =>
    rw [stack]
    split
    · simp
    · simpa using ih _

/-- The notifications that may be drawn, newest first. -/
def newest (q : NotificationQueue) : List Notification := q.items.reverse.take most

/-- The width of the toasts on a page. -/
def width (page : Rect) : Nat := min widest page.width

/-- The first column of the toasts on a page: one column is left free on the right if there is room. -/
def column (page : Rect) : Nat := max (page.right - (width page + 1)) page.x

/-- The notifications that are drawn on a page, newest first, with the places of their boxes. -/
def placed (q : NotificationQueue) (page : Rect) : List (Notification × Rect) :=
  if width page < narrowest then []
  else
    let notes := newest q
    notes.zip (stack (column page) page.y (width page) page.bottom
      (notes.map fun n => height n.message (width page)))

/-- The border of a toast with its title, in the colour of its kind. -/
def frame (n : Notification) (zone : Time.Zone := Time.utc) : Panel :=
  .left n.kind.color (Span.styled (title n.kind.label n.createdAt zone) (.strong n.kind.color))

/-- Draws one toast. -/
def drawOne (c : Canvas) (n : Notification) (r : Rect) (zone : Time.Zone := Time.utc) : Canvas :=
  ((frame n zone).draw (c.clear r) r).drawText r.inner n.message

/-- Draws the toasts on a page. -/
def draw (c : Canvas) (page : Rect) (q : NotificationQueue) (zone : Time.Zone := Time.utc) : Canvas :=
  (placed q page).foldl (fun c (n, r) => drawOne c n r zone) c

end Toast

end Lookout
