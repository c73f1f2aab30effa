import Lookout.Input.LineEditor
import Lookout.Screen.Overlay
import Lookout.Screen.Paragraph
import Lookout.Text.Lowercase
import Lookout.Text.Search

/-!
# Filters

The box in which the rows of a list are narrowed down. A slash opens it; the filter stays when it is
handed in and goes when it is given up.

* **`isMatch_of_isEmpty`** — an empty filter lets every row pass.
-/

namespace Lookout

/-- The text of a filter, and whether its box is open. -/
structure Filter where
  editor : LineEditor
  isOpen : Bool
deriving DecidableEq, Inhabited

/-- What a filter makes of a key: its text changed, it was handed in, the key was used up, or it is left
to others. -/
inductive FilterResult
  | changed
  | submitted
  | handled
  | notHandled
deriving DecidableEq, Inhabited

namespace Filter

/-- No filter. -/
def empty : Filter := ⟨.empty, false⟩

/-- The text of the filter. -/
def query (f : Filter) : List Char := f.editor.text

/-- The text that rows are compared with: without blanks around it and in lower case. -/
def needle (f : Filter) : List Char := Text.lowercase (Text.trim f.query)

/-- One of the fields of a row has the text of the filter in it, whatever the case. -/
def isMatch (f : Filter) (fields : List String) : Bool :=
  f.needle.isEmpty || fields.any fun field => Text.isWithin f.needle (Text.lowercase field.toList)

/-- An empty filter lets every row pass. -/
theorem isMatch_of_isEmpty {f : Filter} (h : f.query = []) (fields : List String) :
    f.isMatch fields = true := by
  simp [isMatch, needle, h, Text.trim, Text.trimStart, Text.trimEnd]

/-- Takes in a key. -/
def press (f : Filter) (k : Key) : Filter × FilterResult :=
  if f.isOpen then
    match f.editor.press k with
    | (e, .consumed) => (⟨e, true⟩, .changed)
    | (e, .submitted _) => (⟨e, false⟩, .submitted)
    | (_, .cancelled) => (.empty, .changed)
    | (e, .notHandled) => (⟨e, true⟩, .handled)
  else if k.isCharacter '/' then (⟨.empty, true⟩, .handled)
  else (f, .notHandled)

/-- Draws the box over a page if it is open. -/
def draw (f : Filter) (c : Canvas) (page : Rect) : Except DrawFault Canvas :=
  if f.isOpen then
    (Overlay.draw c page 3 " Filter ").map fun (inner, c) => c.drawLines inner [f.editor.line "/"]
  else .ok c

end Filter

end Lookout
