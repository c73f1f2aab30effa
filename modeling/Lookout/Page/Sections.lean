import Lookout.Json.Printer
import Lookout.Page.Action
import Lookout.Page.Content
import Lookout.Screen.Panel
import Lookout.Text.Fit

/-!
# The page of a resource that the user defined

The sections of a snapshot, one below the other: their names, a summary and the document itself.
-/

namespace Lookout

/-- The page with the sections of a snapshot, and how many lines it is scrolled down. -/
structure SectionsPage where
  content : PageContent Json
  scroll : Nat

namespace SectionsPage

/-- What a section holds, in a few words. -/
def summary : Json → String
  | .null => "unavailable"
  | .arr items => s!"{items.length} items"
  | .obj fields => s!"{fields.length} fields"
  | .str s => String.ofList (Text.truncate s.toList 80)
  | v => v.text

/-- The lines of a section: its name with the summary, the document, and an empty line. -/
def namedLines (name : String) (v : Json) : List (List Span) :=
  let document := (Text.lines v.indentedText.toList).map fun line => [⟨' ' :: ' ' :: line, .plain⟩]
  [[.styled name (.strong .cyan), .styled ("  " ++ summary v) (.colored .darkGray)]] ++
    document ++ [[]]

/-- The lines of a snapshot. -/
def sectionLines : Json → List (List Span)
  | .obj fields => fields.flatMap fun (name, v) => namedLines name v
  | v => [[.plain v.text]]

/-- Draws the page. -/
def draw (p : SectionsPage) (b : Binding) (c : Canvas) (r : Rect) :
    Except DrawFault (SectionsPage × Canvas) :=
  let panel := Panel.centered .blue (p.content.heading b none)
  match p.content.placeholder? b, p.content.loaded? with
  | none, some data =>
    ((panel.draw c r).drawScrolled r.inner p.scroll (sectionLines data)).map fun c => (p, c)
  | text, _ =>
    .ok (p, (panel.draw (c.tint r (.colored .darkGray)) r).drawText r.inner (text.getD ""))

/-- Takes in a key. -/
def press (p : SectionsPage) (k : Key) : SectionsPage × PageAction :=
  let scroll (n : Nat) : SectionsPage × PageAction := ({ p with scroll := n }, .none)
  match k.code with
  | .char 'j' | .down => scroll (scrollOn p.scroll 1)
  | .char 'k' | .up => scroll (p.scroll - 1)
  | .pageDown => scroll (scrollOn p.scroll 10)
  | .pageUp => scroll (p.scroll - 10)
  | .char 'g' | .home => scroll 0
  | .char 'r' => (p, .refresh)
  | .char 'q' | .escape => (p, .back)
  | _ => (p, .none)

/-- The shortcuts of the page. -/
def shortcuts : List Shortcut := pageShortcuts []

end SectionsPage

end Lookout
