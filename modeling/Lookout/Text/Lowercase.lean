import Lookout.Text.CaseTable

/-!
# Lower case

The lower-case form of a text. A letter maps to its lower-case letter, the dotted capital I to two
characters, and a capital sigma to its final form at the end of a word.

* **`length_le_lowercase`** — the lower-case form of a text is not shorter than the text.
-/
namespace Lookout.Text

/-- The character is a letter with case. -/
def isCased (c : Char) : Bool := casedRanges.has c.toNat

/-- The character is passed over when looking for a letter with case. -/
def isCaseIgnorable (c : Char) : Bool := caseIgnorableRanges.has c.toNat

/-- The lower-case form of a code point, itself when it has none. -/
def lowercasePoint (c : Nat) : Nat :=
  match lowercaseRuns.find? (·.has c) with
  | some run => (c + run.offset).toNat
  | none => c

/-- The lower-case form of a single character, wherever it stands. -/
def lowercaseChar (c : Char) : List Char :=
  if c.toNat < 0x80 then [c.toLower]
  else if c = 'İ' then ['i', '\u0307']
  else [Char.ofNat (lowercasePoint c.toNat)]

/-- The nearest character that is not passed over is a letter with case. -/
def startsCased (cs : List Char) : Bool :=
  match cs.dropWhile isCaseIgnorable with
  | c :: _ => isCased c
  | [] => false

/-- Lower-cases the text `cs`; `before` holds the characters before it, nearest first. -/
def lowercaseAfter (before : List Char) : List Char → List Char
  | [] => []
  | c :: rest =>
    let here :=
      if c = 'Σ' then (if startsCased before && !startsCased rest then ['ς'] else ['σ'])
      else lowercaseChar c
    here ++ lowercaseAfter (c :: before) rest

/-- The lower-case form of a text. -/
def lowercase (cs : List Char) : List Char := lowercaseAfter [] cs

@[simp] theorem lowercase_nil : lowercase [] = [] := rfl

theorem lowercaseChar_ne_nil (c : Char) : lowercaseChar c ≠ [] := by
  unfold lowercaseChar
  split
  · simp
  · split <;> simp

theorem length_le_lowercaseAfter (before cs : List Char) :
    cs.length ≤ (lowercaseAfter before cs).length := by
  induction cs generalizing before with
  | nil => exact Nat.zero_le _
  | cons c rest ih =>
    have hrest := ih (c :: before)
    have hhere : 0 < (if c = 'Σ' then (if startsCased before && !startsCased rest then ['ς'] else ['σ'])
        else lowercaseChar c).length := by
      split
      · split <;> decide
      · exact List.length_pos_iff.2 (lowercaseChar_ne_nil c)
    simp only [lowercaseAfter, List.length_append, List.length_cons]
    omega

/-- The lower-case form of a text is not shorter than the text. -/
theorem length_le_lowercase (cs : List Char) : cs.length ≤ (lowercase cs).length :=
  length_le_lowercaseAfter [] cs

end Lookout.Text
