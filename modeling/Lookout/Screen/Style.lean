/-!
# Styles

The colours and the weight of what is drawn. A part that a style leaves open is taken from what it is
laid over.

* **`above_plain`** — a style over the plain one is that style.
* **`above_assoc`** — styles may be laid over each other in any grouping.
-/

namespace Lookout

/-- The colours of a terminal that the program uses. -/
inductive Color
  | black
  | red
  | green
  | yellow
  | blue
  | cyan
  | white
  | darkGray
deriving DecidableEq, Inhabited

/-- The name of a colour. -/
def Color.name : Color → String
  | .black => "Black"
  | .red => "Red"
  | .green => "Green"
  | .yellow => "Yellow"
  | .blue => "Blue"
  | .cyan => "Cyan"
  | .white => "White"
  | .darkGray => "DarkGray"

/-- The colours of a text and of what is behind it, each open or given, and whether it is bold. -/
structure Style where
  text : Option Color := none
  ground : Option Color := none
  bold : Bool := false
deriving DecidableEq, Inhabited

namespace Style

/-- The style that leaves everything open. -/
def plain : Style := {}

/-- The style of a text in a colour. -/
def colored (c : Color) : Style := { text := some c }

/-- The style of a bold text in a colour. -/
def strong (c : Color) : Style := { text := some c, bold := true }

/-- The style with a colour behind the text. -/
def onGround (s : Style) (c : Color) : Style := { s with ground := some c }

/-- The style `s` laid over another. -/
def above (s below : Style) : Style where
  text := s.text.or below.text
  ground := s.ground.or below.ground
  bold := s.bold || below.bold

/-- A style over the plain one is that style. -/
@[simp] theorem above_plain (s : Style) : s.above plain = s := by
  simp [above, plain]

@[simp] theorem plain_above (s : Style) : plain.above s = s := by
  simp [above, plain]

/-- Styles may be laid over each other in any grouping. -/
theorem above_assoc (a b c : Style) : (a.above b).above c = a.above (b.above c) := by
  simp [above, Option.or_assoc, Bool.or_assoc]

end Style

end Lookout
