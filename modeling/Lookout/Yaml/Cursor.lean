/-!
# Cursors

A place in a text: the characters that are left and how far the place is from the start. Two
characters make one line end if they are a carriage return and a line feed.

* **`skip_rest`** — a step takes one character off what is left.
-/

namespace Lookout.Yaml

/-- A position in a text; lines and columns count from zero. -/
structure Mark where
  index : Nat
  line : Nat
  column : Nat
deriving DecidableEq, Inhabited, Repr

/-- The start of a text. -/
def Mark.start : Mark := ⟨0, 0, 0⟩

/-- The position is on the first line in the first column. -/
def Mark.isOrigin (m : Mark) : Bool := m.line == 0 && m.column == 0

/-- The position in words, counting from one. -/
def Mark.text (m : Mark) : String :=
  if m.isOrigin then s!"position {m.index}" else s!"line {m.line + 1} column {m.column + 1}"

/-- A line feed, a carriage return, or one of the other line separators. -/
def isBreak (c : Char) : Bool :=
  c == '\n' || c == '\x0d' || c == '\u0085' || c == '\u2028' || c == '\u2029'

/-- A space or a tab. -/
def isBlank (c : Char) : Bool := c == ' ' || c == '\t'

/-- A letter, a digit, a dash or an underscore. -/
def isWord (c : Char) : Bool := c.isAlphanum || c == '_' || c == '-'

/-- A place in a text. -/
structure Cursor where
  rest : List Char
  mark : Mark
deriving Inhabited

namespace Cursor

/-- The start of a text. -/
def ofText (s : String) : Cursor := ⟨s.toList, .start⟩

/-- The text has ended. -/
def atEnd (c : Cursor) : Bool := c.rest.isEmpty

/-- The character `n` places ahead. -/
def look (c : Cursor) (n : Nat) : Option Char := c.rest[n]?

/-- The character `n` places ahead is `d`. -/
def sees (c : Cursor) (d : Char) (n : Nat) : Bool := c.look n == some d

/-- The character `n` places ahead has a property. -/
def seesAny (c : Cursor) (p : Char → Bool) (n : Nat) : Bool :=
  match c.look n with
  | some d => p d
  | none => false

/-- A line ends here. -/
def atBreak (c : Cursor) : Bool := c.seesAny isBreak 0

/-- A space or a tab is here. -/
def atBlank (c : Cursor) : Bool := c.seesAny isBlank 0

/-- A line or the text ends here. -/
def atBreakOrEnd (c : Cursor) : Bool := c.atEnd || c.atBreak

/-- A blank, the end of a line or the end of the text is `n` places ahead. -/
def separated (c : Cursor) (n : Nat) : Bool :=
  match c.look n with
  | some d => isBlank d || isBreak d
  | none => true

/-- One character on, in the same line. -/
def skip (c : Cursor) : Cursor :=
  match c.rest with
  | [] => c
  | _ :: rest => ⟨rest, { c.mark with index := c.mark.index + 1, column := c.mark.column + 1 }⟩

/-- `n` characters on, in the same line. -/
def skipMany (c : Cursor) : Nat → Cursor
  | 0 => c
  | n + 1 => c.skip.skipMany n

/-- Over all characters with a property, in the same line. -/
def skipWhile (p : Char → Bool) (c : Cursor) : Cursor :=
  let passed := (c.rest.takeWhile p).length
  ⟨c.rest.drop passed,
    { c.mark with index := c.mark.index + passed, column := c.mark.column + passed }⟩

/-- Over the line end that is here. -/
def skipLine (c : Cursor) : Cursor :=
  match c.rest with
  | '\x0d' :: '\n' :: rest => ⟨rest, ⟨c.mark.index + 2, c.mark.line + 1, 0⟩⟩
  | d :: rest => if isBreak d then ⟨rest, ⟨c.mark.index + 1, c.mark.line + 1, 0⟩⟩ else c
  | [] => c

/-- The line end that is here as it is read: a line feed, but the two separators of paragraphs and
lines are kept. -/
def readBreak (c : Cursor) : List Char :=
  match c.rest with
  | '\u2028' :: _ => ['\u2028']
  | '\u2029' :: _ => ['\u2029']
  | d :: _ => if isBreak d then ['\n'] else []
  | [] => []

/-- Over a comment, if one starts here. -/
def skipComment (c : Cursor) : Cursor := if c.sees '#' 0 then c.skipWhile (!isBreak ·) else c

/-- A document indicator made of three times `d` is here, at the start of a line. -/
def atIndicator (c : Cursor) (d : Char) : Bool :=
  c.mark.column == 0 && c.sees d 0 && c.sees d 1 && c.sees d 2 && c.separated 3

/-- A step takes one character off what is left. -/
theorem skip_rest (c : Cursor) : c.skip.rest = c.rest.tail := by
  unfold skip
  split <;> simp_all

end Cursor

end Lookout.Yaml
