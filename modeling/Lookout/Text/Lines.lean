/-!
# Lines

The lines of a text: cut at each line feed, a carriage return before it dropped, and no empty line
after the last one.
-/

namespace Lookout.Text

/-- The line without a carriage return at its end. -/
def dropReturn (line : List Char) : List Char :=
  if line.getLast? = some '\x0d' then line.dropLast else line

/-- The lines of `current ++ rest`, where `current` is the start of a line, given backwards. -/
def linesFrom (current : List Char) : List Char → List (List Char)
  | [] => if current.isEmpty then [] else [current.reverse]
  | c :: rest =>
    if c = '\n' then dropReturn current.reverse :: linesFrom [] rest
    else linesFrom (c :: current) rest

/-- The lines of a text. -/
def lines (cs : List Char) : List (List Char) := linesFrom [] cs

end Lookout.Text
