/-!
# Fitting text into columns

Cutting a text that is too long and filling one that is too short, both counted in characters.

* **`truncate_length_le`** — a truncated text has at most the room it was given, but never less than
  its three dots.
* **`padRight_length`** — a filled text has the wanted length, or its own if that is longer.
-/

namespace Lookout.Text

/-- The text itself if it has at most `room` characters, and otherwise its start followed by three
dots. -/
def truncate (cs : List Char) (room : Nat) : List Char :=
  if cs.length ≤ room then cs else cs.take (room - 3) ++ ['.', '.', '.']

/-- The text filled with blanks on the right up to `size` characters. -/
def padRight (cs : List Char) (size : Nat) : List Char :=
  cs ++ List.replicate (size - cs.length) ' '

/-- The text filled with blanks on the left up to `size` characters. -/
def padLeft (cs : List Char) (size : Nat) : List Char :=
  List.replicate (size - cs.length) ' ' ++ cs

/-- A truncated text has at most the room it was given, but never less than its three dots. -/
theorem truncate_length_le (cs : List Char) (room : Nat) :
    (truncate cs room).length ≤ max room 3 := by
  unfold truncate
  split
  · omega
  · simp
    omega

@[simp] theorem padRight_length (cs : List Char) (size : Nat) :
    (padRight cs size).length = max size cs.length := by
  simp [padRight]
  omega

@[simp] theorem padLeft_length (cs : List Char) (size : Nat) :
    (padLeft cs size).length = max size cs.length := by
  simp [padLeft]
  omega

end Lookout.Text
