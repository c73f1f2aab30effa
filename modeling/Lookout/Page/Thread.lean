import Lookout.Page.Action
import Lookout.Page.Content
import Lookout.Screen.Panel
import Lookout.Snapshot.ChatThread
import Lookout.Time.Timestamp

/-!
# The page of a chat

The messages of one chat, the newest at the bottom. Scrolling counts lines up from there.

* **`scrollTo_le`** — the lines in front of the window and those scrolled up are all that can be.
-/

namespace Lookout

/-- The page with the messages of a chat, and how many lines it is scrolled up. -/
structure ThreadPage where
  content : PageContent Snapshot.ChatThread
  scrollBack : Nat

namespace ThreadPage

open Snapshot

/-- The lines of a message: who wrote it and when, its text, and an empty line. -/
def messageLines (m : Message) : List (List Span) :=
  let author :=
    if m.outgoing then Span.styled "you" (.strong .green)
    else .styled (m.author.getD "client") (.strong .cyan)
  let time := match m.createdAt with
    | some t => [Span.styled ("  " ++ Time.shortText t) (.colored .darkGray)]
    | none => []
  let text := (Text.lines m.text.toList).map fun line => [⟨' ' :: ' ' :: line, .plain⟩]
  [author :: time] ++ text ++ [[]]

/-- The lines of all messages. -/
def lines (messages : List Message) : List (List Span) := messages.flatMap messageLines

/-- How far a page of `count` lines can be scrolled up if `seen` lines are seen. The lines are counted in
a coordinate. -/
def farthest (count seen : Nat) : Nat := count % coordinateValues - seen

/-- The lines in front of the window, and how far the page is scrolled up, which is no farther than it
can be. -/
def scrollTo (scrollBack count seen : Nat) : Nat × Nat :=
  let back := min scrollBack (farthest count seen)
  (farthest count seen - back, back)

/-- The lines in front of the window and those scrolled up are all that can be. -/
theorem scrollTo_le (scrollBack count seen : Nat) :
    (scrollTo scrollBack count seen).1 + (scrollTo scrollBack count seen).2 = farthest count seen := by
  simp only [scrollTo]
  omega

/-- Draws the page. -/
def draw (p : ThreadPage) (b : Binding) (c : Canvas) (r : Rect) :
    Except DrawFault (ThreadPage × Canvas) :=
  let messages := (p.content.loaded?.map ChatThread.messages).getD []
  let count := p.content.loaded?.map fun data => data.messages.length
  let panel := Panel.centered .blue (p.content.heading b count)
  let dimmed := panel.draw (c.tint r (.colored .darkGray)) r
  match p.content.placeholder? b with
  | some text => .ok (p, dimmed.drawText r.inner text)
  | none =>
    if messages.isEmpty then .ok (p, dimmed.drawLines r.inner (plainLines "No messages yet."))
    else
      let lines := lines messages
      let (offset, back) := scrollTo p.scrollBack lines.length (r.height - 2)
      ((panel.draw c r).drawScrolled r.inner offset lines).map fun c =>
        ({ p with scrollBack := back }, c)

/-- Takes in a key. -/
def press (p : ThreadPage) (k : Key) : ThreadPage × PageAction :=
  let scroll (n : Nat) : ThreadPage × PageAction := ({ p with scrollBack := n }, .none)
  match k.code with
  | .char 'k' | .up => scroll (scrollOn p.scrollBack 1)
  | .char 'j' | .down => scroll (p.scrollBack - 1)
  | .pageUp => scroll (scrollOn p.scrollBack 10)
  | .pageDown => scroll (p.scrollBack - 10)
  | .char 'G' | .finish => scroll 0
  | .char 'r' => (p, .refresh)
  | .char 'q' | .escape => (p, .back)
  | _ => (p, .none)

/-- The shortcuts of the page. -/
def shortcuts : List Shortcut :=
  pageShortcuts [{ key := "j/k", label := "scroll", priority := 15 }]

end ThreadPage

end Lookout
