import Lookout.App.Basic
import Lookout.Screen.Chrome
import Lookout.Screen.Toast

/-!
# The picture

The header, the page on top of the stack, the footer, and over the page the palette and the toasts.

* **`layout_height`** — the three parts of the screen take all its rows.
-/

namespace Lookout.App

/-- The shortcuts while the palette is open. -/
def paletteShortcuts : List Shortcut :=
  [{ key := "enter", label := "run", priority := 10 },
    { key := "tab", label := "next", priority := 20 },
    { key := "esc", label := "cancel", priority := 30 }]

/-- The shortcuts that the header shows. -/
def shortcuts (a : App) : List Shortcut :=
  if a.palette.isOpen then paletteShortcuts
  else
    match a.stack with
    | top :: _ => top.shortcuts
    | [] => []

/-- The rows of the header, the page and the footer. A page has at least one row; the header comes before
the footer. -/
def layout (screen : Rect) : Rect × Rect × Rect :=
  let (header, rest) := screen.splitTop (min 1 (screen.height - 1))
  let (page, footer) := rest.splitTop (max (rest.height - 1) 1)
  (header, page, footer)

/-- The three parts of the screen take all its rows. -/
theorem layout_height (screen : Rect) :
    (layout screen).1.height + (layout screen).2.1.height + (layout screen).2.2.height =
      screen.height := by
  simp only [layout, Rect.splitTop]
  omega

/-- Draws the page on top of the stack. -/
def drawPage (a : App) (c : Canvas) (r : Rect) : Except DrawFault (App × Canvas) :=
  match a.stack with
  | [] => .ok (a, c)
  | top :: rest =>
    match a.world.binding? top.binding with
    | none => .ok (a, c)
    | some b => (top.draw b c r).map fun (top, c) => ({ a with stack := top :: rest }, c)

/-- Draws the picture on a screen of a size, with the local time of a zone in the titles of the toasts.
Drawing settles what is selected and how far is scrolled. -/
def draw (a : App) (width height : Nat) (zone : Time.Zone := Time.utc) :
    Except DrawFault (App × Canvas) := do
  let blank := Canvas.blank width height
  let (header, page, footer) := layout blank.area
  let c := Header.draw blank header a.title a.apiUrl a.shortcuts
  let (a, c) ← a.drawPage c page
  let c := Footer.draw c footer a.breadcrumb a.status
  let c ← a.palette.draw c page
  return (a, Toast.draw c page a.notifications zone)

end Lookout.App
