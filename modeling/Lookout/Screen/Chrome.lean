import Lookout.Screen.Paragraph

/-!
# Header and footer

The bars above and below a page: the program's title, the address of the server and what keys do at the
top, the way to the page and how fresh it is at the bottom.

* **`mem_inOrder_iff`** — every shortcut is shown.
-/

namespace Lookout

/-- A key and what it does. Those with a smaller priority come first. -/
structure Shortcut where
  key : String
  label : String
  priority : Nat := 100
deriving DecidableEq, Inhabited

/-- The shortcuts by priority; those of one priority keep their order. -/
def Shortcut.inOrder (shortcuts : List Shortcut) : List Shortcut :=
  shortcuts.mergeSort fun a b => a.priority ≤ b.priority

/-- Every shortcut is shown. -/
theorem Shortcut.mem_inOrder_iff {s : Shortcut} {shortcuts : List Shortcut} :
    s ∈ inOrder shortcuts ↔ s ∈ shortcuts := List.mem_mergeSort

namespace Header

/-- The text without a beginning, or the text itself if it does not start so. -/
def dropStart? (beginning cs : List Char) : Option (List Char) :=
  if beginning.isPrefixOf cs then some (cs.drop beginning.length) else none

/-- The server in an address: what stands between the scheme and the first slash. -/
def domain (url : String) : String :=
  let cs := url.toList
  let rest := ((dropStart? "https://".toList cs).or (dropStart? "http://".toList cs)).getD cs
  String.ofList (rest.takeWhile (· ≠ '/'))

/-- The hint for a shortcut. -/
def hint (s : Shortcut) : List Span :=
  [.styled ("<" ++ s.key ++ ">") (.colored .cyan), .styled (" " ++ s.label) (.colored .darkGray)]

/-- The line of the header. -/
def line (title url : String) (shortcuts : List Shortcut) : List Span :=
  let bar := Span.styled "│" (.colored .darkGray)
  [.styled (" " ++ title ++ " ") (.strong .cyan), bar,
    .styled (" " ++ domain url ++ " ") (.colored .white), bar, .plain " "] ++
    [Span.plain "   "].intercalate ((Shortcut.inOrder shortcuts).map hint)

/-- Draws the header. -/
def draw (c : Canvas) (r : Rect) (title url : String) (shortcuts : List Shortcut) : Canvas :=
  (c.tint r (Style.plain.onGround .black)).drawLines r [line title url shortcuts]

end Header

namespace Footer

/-- The way to the page, the page itself standing out. -/
def crumbs : List String → List Span
  | [] => []
  | [page] => [.styled page (.strong .cyan)]
  | page :: rest =>
    [.styled page (.colored .white), .styled " > " (.colored .darkGray)] ++ crumbs rest

/-- Draws the footer: the way to the page on the left and the status on the right. -/
def draw (c : Canvas) (r : Rect) (breadcrumb : List String) (status : Option String) : Canvas :=
  let status := (status.map (· ++ " ")).getD ""
  let (left, right) := r.splitRight (status.length % coordinateValues)
  let c := (c.tint left (Style.plain.onGround .black)).drawLines left [.plain " " :: crumbs breadcrumb]
  (c.tint right ((Style.colored .darkGray).onGround .black)).drawLines right (plainLines status)

end Footer

end Lookout
