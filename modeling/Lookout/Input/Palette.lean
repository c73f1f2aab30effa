import Lookout.Command
import Lookout.Input.LineEditor
import Lookout.Screen.ListBox
import Lookout.Screen.Overlay
import Lookout.Screen.Paragraph
import Lookout.Text.Fit

/-!
# The palette

The box in which commands are typed. A colon opens it. It suggests commands while a text is typed, one of
which is selected.

* **`press_closed`** — while it is closed, it takes in the colon only.
-/

namespace Lookout

/-- The commands, the text typed, whether the box is open, and the number of the selected suggestion. -/
structure Palette where
  commands : List Command
  editor : LineEditor
  isOpen : Bool
  selected : Nat
deriving DecidableEq, Inhabited

/-- What the palette makes of a key: a command was handed in, the input was given up, the key was used up,
or it is left to others. -/
inductive PaletteResult
  | submitted (command : String)
  | cancelled
  | handled
  | notHandled
deriving DecidableEq, Inhabited

namespace Palette

/-- The closed palette. -/
def new (commands : List Command) : Palette := ⟨commands, .empty, false, 0⟩

/-- The commands that the text may mean. -/
def suggestions (p : Palette) : List Command :=
  Command.suggestions p.commands (String.ofList p.editor.text)

/-- The palette without a text. -/
def reset (p : Palette) (isOpen : Bool) : Palette :=
  { p with editor := .empty, isOpen := isOpen, selected := 0 }

/-- The command that Enter hands in: the selected suggestion, or else the text without blanks around it
and in lower case. -/
def choice (p : Palette) : String :=
  match p.suggestions[p.selected]? with
  | some c => c.name
  | none => String.ofList (Text.lowercase (Text.trim p.editor.text))

/-- Selects the suggestion `step` places further on, starting over after the last one. -/
def move (p : Palette) (step : Nat → Nat) : Palette :=
  let count := p.suggestions.length
  if count = 0 then p else { p with selected := (p.selected + step count) % count }

/-- Takes in a key while the palette is open. -/
def pressOpen (p : Palette) (k : Key) : Palette × PaletteResult :=
  match k.code with
  | .escape => (p.reset false, .cancelled)
  | .enter => (p.reset false, .submitted p.choice)
  | .tab | .down => (p.move fun _ => 1, .handled)
  | .backTab | .up => (p.move (· - 1), .handled)
  | _ =>
    match p.editor.press k with
    | (e, .consumed) => ({ p with editor := e, selected := 0 }, .handled)
    | (e, _) => ({ p with editor := e }, .handled)

/-- Takes in a key. -/
def press (p : Palette) (k : Key) : Palette × PaletteResult :=
  if p.isOpen then p.pressOpen k
  else if k.isCharacter ':' then (p.reset true, .handled)
  else (p, .notHandled)

/-- While it is closed, it takes in the colon only. -/
theorem press_closed {p : Palette} {k : Key} (closed : p.isOpen = false)
    (h : k.isCharacter ':' = false) : p.press k = (p, .notHandled) := by
  simp [press, closed, h]

/-- How many suggestions are drawn at most. -/
def roomForSuggestions : Nat := 8

/-- The row of a suggestion. -/
def row (c : Command) : List Span :=
  [⟨Text.padRight c.name.toList 12, .colored .cyan⟩, .styled c.description (.colored .darkGray)]

/-- The list of the suggestions that are drawn. -/
def listBox (p : Palette) : ListBox where
  rows := (p.suggestions.take roomForSuggestions).map row
  pointer := ""
  highlight := (Style.colored .white).onGround .darkGray

/-- Draws the palette over a page if it is open. -/
def draw (p : Palette) (c : Canvas) (page : Rect) : Except DrawFault Canvas :=
  if p.isOpen then
    let height := min (3 + min p.suggestions.length roomForSuggestions) page.height
    (Overlay.draw c page height " Command ").map fun (inner, c) =>
      let (top, below) := inner.splitTop 1
      let c := c.drawLines top [p.editor.line ":"]
      if p.suggestions.isEmpty then c
      else (p.listBox.draw c below ⟨some p.selected, 0⟩).2
  else .ok c

end Palette

end Lookout
