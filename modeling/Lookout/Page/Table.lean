import Lookout.Input.Filter
import Lookout.Screen.ListBox
import Lookout.Screen.Panel
import Lookout.Screen.Paragraph

/-!
# Tables

What the pages with a list of rows have in common: a selected row, a filter, and a panel that shows the
rows or a text in their place.

* **`press_filtering`** — an open filter gets every key.
-/

namespace Lookout

/-- The selected row of a table and its filter. -/
structure Table where
  selection : Selection
  filter : Filter
deriving DecidableEq, Inhabited

/-- What a table makes of a key: it is used up, newer data is wanted, the page shall be left, or the key
is left to the page. -/
inductive TableResult
  | handled
  | refresh
  | back
  | notHandled
deriving DecidableEq, Inhabited

/-- What a panel shows: a text in place of the rows, a remark that there are none, or the rows. -/
inductive TableView
  | placeholder (text : String)
  | remark (text : String)
  | rows (rows : List (List Span))

namespace Table

/-- Nothing is selected and nothing filtered. -/
def new : Table := ⟨.none, .empty⟩

/-- Takes in a key that the filter has left. -/
def pressRows (t : Table) (k : Key) : Table × TableResult :=
  match k.code with
  | .char 'j' | .down => ({ t with selection := t.selection.next }, .handled)
  | .char 'k' | .up => ({ t with selection := t.selection.previous }, .handled)
  | .char 'r' => (t, .refresh)
  | .char 'q' | .escape => (t, .back)
  | _ => (t, .notHandled)

/-- Takes in a key. -/
def press (t : Table) (k : Key) : Table × TableResult :=
  match t.filter.press k with
  | (_, .notHandled) => t.pressRows k
  | (f, _) => ({ t with filter := f }, .handled)

/-- An open filter gets every key. -/
theorem press_filtering {t : Table} (h : t.filter.isOpen = true) (k : Key) :
    t.press k = ({ t with filter := (t.filter.press k).1 }, .handled) := by
  have handled : (t.filter.press k).2 ≠ .notHandled := by
    unfold Filter.press
    rw [if_pos h]
    split <;> simp
  unfold press
  split
  · next eq => exact absurd (by rw [eq]) handled
  · next eq => rw [eq]

/-- The heading with the text of the filter. -/
def heading (t : Table) (heading : String) : String :=
  if t.filter.query.isEmpty then heading
  else heading ++ "[/" ++ String.ofList t.filter.query ++ "] "

/-- What is shown for `rows` if a text may stand in their place. -/
def view (t : Table) (placeholder : Option String) (noun : String) (rows : List (List Span)) :
    TableView :=
  match placeholder with
  | some text => .placeholder text
  | none =>
    if rows.isEmpty then
      .remark (if t.filter.query.isEmpty then "No " ++ noun ++ "."
        else "No " ++ noun ++ " match the filter.")
    else .rows rows

/-- The list box of the rows. -/
def listBox (rows : List (List Span)) : ListBox where
  rows := rows
  pointer := "> "
  highlight := { ground := some .darkGray, bold := true }

/-- Draws the panel. Only rows that are drawn settle the selection. -/
def draw (t : Table) (c : Canvas) (r : Rect) (heading : String) (view : TableView) : Table × Canvas :=
  let panel := Panel.centered .blue (t.heading heading)
  let dimmed := panel.draw (c.tint r (.colored .darkGray)) r
  match view with
  | .placeholder text => (t, dimmed.drawText r.inner text)
  | .remark text => (t, dimmed.drawLines r.inner (plainLines text))
  | .rows rows =>
    let (s, c) := (listBox rows).draw (panel.draw c r) r.inner (t.selection.settle rows.length)
    ({ t with selection := s }, c)

end Table

end Lookout
