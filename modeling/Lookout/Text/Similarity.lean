import Lookout.Decimal.Binary64

/-!
# Similar texts

How alike two texts are, from nothing to one: the more characters they share at nearby places, and the
fewer of those stand in another order, the more alike. The shares are added up in double precision.

* **`length_pair_fst_le`** — no character is shared twice.
-/

namespace Lookout.Text

/-- Marks the first character equal to `c`, not marked yet, whose place is from `least` up to `bound`. The
head of the list stands in place `place`. -/
def mark? (c : Char) (least bound place : Nat) :
    List (Char × Bool) → Option (List (Char × Bool))
  | [] => none
  | (d, isMarked) :: rest =>
    if least ≤ place && place < bound && c = d && !isMarked then some ((d, true) :: rest)
    else (mark? c least bound (place + 1) rest).map ((d, isMarked) :: ·)

/-- The characters of a text that are shared with another one, looked for `reach` places around, and the
other text with those characters marked. The head of the text stands in place `place`. -/
def pair (reach place : Nat) (marks : List (Char × Bool)) : List Char → List Char × List (Char × Bool)
  | [] => ([], marks)
  | c :: rest =>
    match mark? c (place - reach) (place + reach + 1) 0 marks with
    | some marks =>
      let (shared, marks) := pair reach (place + 1) marks rest
      (c :: shared, marks)
    | none => pair reach (place + 1) marks rest

/-- No character is shared twice. -/
theorem length_pair_fst_le (reach place : Nat) (marks : List (Char × Bool)) (cs : List Char) :
    (pair reach place marks cs).1.length ≤ cs.length := by
  induction cs generalizing place marks with
  | nil => simp [pair]
  | cons c rest ih =>
    rw [pair]
    split
    · simpa using ih _ _
    · exact Nat.le_succ_of_le (ih _ _)

/-- The sum of two numbers that are not negative, rounded. -/
def addShares (x y : Binary64) : Binary64 :=
  .ofRatio false (x.numerator * y.denominator + y.numerator * x.denominator)
    (x.denominator * y.denominator)

/-- How alike two texts are. -/
def similarity (a b : List Char) : Binary64 :=
  let (shared, marks) := pair (max a.length b.length / 2 - 1) 0 (b.map (·, false)) a
  let others := (marks.filter (·.2)).map (·.1)
  let moved := ((shared.zip others).countP fun (c, d) => c ≠ d) / 2
  let n := shared.length
  if n = 0 then .zero false
  else
    let share (k m : Nat) : Binary64 := .ofRatio false k m
    (addShares (addShares (share n a.length) (share n b.length)) (share (n - moved) n)).div
      (.ofRatio false 3 1)

/-- The first number is less than the second; neither is negative. -/
def isLess (x y : Binary64) : Bool := x.numerator * y.denominator < y.numerator * x.denominator

end Lookout.Text
