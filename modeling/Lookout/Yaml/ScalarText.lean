import Lookout.Yaml.SyntaxError

/-!
# Texts of scalars

The three ways to write a scalar: plain, in quotes, or as an indented block. Runs of blanks and line
ends inside a plain or quoted scalar are folded: a single line end reads as a space, further ones as
line feeds.

* **`Gap.text_unbroken`** — without a line end the blanks are kept.
-/

namespace Lookout.Yaml

/-- A fault at a place, found while reading something that began at `start`. -/
def faultIn {α : Type} (activity : Activity) (start : Mark) (c : Cursor) (fault : Fault) :
    Except SyntaxError α :=
  .error ⟨fault, c.mark, some (activity, start)⟩

/-! ## Gaps between words -/

/-- A run of blanks and line ends: the blanks before the first line end, whether there is a line end,
the first one and the ones behind it. -/
structure Gap where
  blanks : List Char
  broken : Bool
  first : List Char
  later : List Char

/-- No blanks and no line ends. -/
def Gap.none : Gap := ⟨[], false, [], []⟩

/-- What a gap reads as. -/
def Gap.text (g : Gap) : List Char :=
  if !g.broken then g.blanks
  else if g.first = ['\n'] then (if g.later.isEmpty then [' '] else g.later)
  else g.first ++ g.later

/-- Without a line end the blanks are kept. -/
theorem Gap.text_unbroken {g : Gap} (h : g.broken = false) : g.text = g.blanks := by
  simp [Gap.text, h]

/-- Reads a gap. A tab left of the column `limit` in a line after the first one is a fault, whose place
is given. -/
def readGap (limit : Nat) : Nat → Gap → Cursor → Except Mark (Gap × Cursor)
  | 0, g, c => .ok (g, c)
  | fuel + 1, g, c =>
    if c.atBlank then
      if g.broken then
        if c.sees '\t' 0 && c.mark.column < limit then .error c.mark
        else readGap limit fuel g c.skip
      else readGap limit fuel { g with blanks := g.blanks ++ c.rest.take 1 } c.skip
    else if c.atBreak then
      if g.broken then readGap limit fuel { g with later := g.later ++ c.readBreak } c.skipLine
      else readGap limit fuel { g with blanks := [], broken := true, first := c.readBreak } c.skipLine
    else .ok (g, c)

/-! ## Plain scalars -/

/-- A document indicator starts here. -/
def Cursor.atDocumentIndicator (c : Cursor) : Bool := c.atIndicator '-' || c.atIndicator '.'

/-- A bracket, a brace or a comma, which ends a plain scalar inside brackets. -/
def isFlowIndicator (c : Char) : Bool :=
  c == ',' || c == '[' || c == ']' || c == '\x7b' || c == '\x7d'

/-- Reads the characters of a plain scalar up to the next blank or indicator; `inFlow` says that the
scalar stands inside brackets. -/
def readPlainWord (inFlow : Bool) (start : Mark) :
    Nat → List Char → Cursor → Except SyntaxError (List Char × Cursor)
  | 0, word, c => .ok (word, c)
  | fuel + 1, word, c =>
    match c.rest with
    | [] => .ok (word, c)
    | d :: _ =>
      if isBlank d || isBreak d then .ok (word, c)
      else if inFlow && d == ':' && c.seesAny (fun e => isFlowIndicator e || e == '?') 1 then
        faultIn .plainScalar start c .colonInFlow
      else if (d == ':' && c.separated 1) || (inFlow && isFlowIndicator d) then .ok (word, c)
      else readPlainWord inFlow start fuel (d :: word) c.skip

/-- A scalar that has been read: its text, the place behind it and behind the gap after it, and whether
a line ended in that gap. -/
structure ScalarText where
  text : String
  next : Cursor
  broken : Bool

/-- Reads a plain scalar word by word; `column` is the least column of its further lines. -/
def readPlain (inFlow : Bool) (column : Nat) (start : Mark) :
    Nat → Gap → List Char → Cursor → Except SyntaxError ScalarText
  | 0, g, text, c => .ok ⟨String.ofList text, c, g.broken⟩
  | fuel + 1, g, text, c => do
    if c.atDocumentIndicator || c.sees '#' 0 then return ⟨String.ofList text, c, g.broken⟩
    let (word, behind) ← readPlainWord inFlow start (c.rest.length + 1) [] c
    let (text, g) :=
      if word.isEmpty then (text, g) else (text ++ g.text ++ word.reverse, Gap.none)
    if !(behind.atBlank || behind.atBreak) then return ⟨String.ofList text, behind, g.broken⟩
    match readGap column (behind.rest.length + 1) g behind with
    | .error place => .error ⟨.tabInPlain, place, some (.plainScalar, start)⟩
    | .ok (g, c) =>
      if !inFlow && c.mark.column < column then return ⟨String.ofList text, c, g.broken⟩
      readPlain inFlow column start fuel g text c

/-! ## Quoted scalars -/

/-- The character of an escape that stands for one character. -/
def simpleEscape? : Char → Option Char
  | '0' => some '\x00'
  | 'a' => some '\x07'
  | 'b' => some '\x08'
  | 't' | '\t' => some '\t'
  | 'n' => some '\n'
  | 'v' => some '\x0b'
  | 'f' => some '\x0c'
  | 'r' => some '\x0d'
  | 'e' => some '\x1b'
  | ' ' => some ' '
  | '"' => some '"'
  | '/' => some '/'
  | '\\' => some '\\'
  | 'N' => some '\u0085'
  | '_' => some '\u00a0'
  | 'L' => some '\u2028'
  | 'P' => some '\u2029'
  | _ => none

/-- How many hexadecimal digits follow the letter of an escape. -/
def escapeLength? : Char → Option Nat
  | 'x' => some 2
  | 'u' => some 4
  | 'U' => some 8
  | _ => none

/-- The value of a hexadecimal digit. -/
def hexValue? (c : Char) : Option Nat :=
  if c.isDigit then some (c.toNat - '0'.toNat)
  else if 'a' ≤ c && c ≤ 'f' then some (c.toNat - 'a'.toNat + 10)
  else if 'A' ≤ c && c ≤ 'F' then some (c.toNat - 'A'.toNat + 10)
  else none

/-- The value of the first `n` characters as hexadecimal digits. -/
def hexNumber? : Nat → Nat → List Char → Option Nat
  | 0, value, _ => some value
  | _ + 1, _, [] => none
  | n + 1, value, c :: rest =>
    match hexValue? c with
    | some d => hexNumber? n (value * 16 + d) rest
    | none => none

/-- Reads the escape at the backslash that is here. -/
def readEscape (start : Mark) (c : Cursor) : Except SyntaxError (Char × Cursor) :=
  match c.look 1 with
  | none => faultIn .quotedEscape start c .unknownEscape
  | some d =>
    match simpleEscape? d, escapeLength? d with
    | some e, _ => .ok (e, c.skipMany 2)
    | none, none => faultIn .quotedEscape start c .unknownEscape
    | none, some n =>
      let digits := c.skipMany 2
      match hexNumber? n 0 digits.rest with
      | none => faultIn .quotedEscape start digits .escapeDigits
      | some value =>
        if h : value.isValidChar then .ok (Char.ofNatAux value h, digits.skipMany n)
        else faultIn .quotedEscape start digits .escapeValue

/-- Reads the characters of a quoted scalar up to the next blank or the closing quote. The result also
says whether the word ends with an escaped line end. -/
def readQuotedWord (quote : Char) (start : Mark) :
    Nat → List Char → Cursor → Except SyntaxError (List Char × Bool × Cursor)
  | 0, word, c => .ok (word, false, c)
  | fuel + 1, word, c =>
    match c.rest with
    | [] => .ok (word, false, c)
    | d :: _ =>
      if isBlank d || isBreak d then .ok (word, false, c)
      else if quote == '\'' && d == '\'' && c.sees '\'' 1 then
        readQuotedWord quote start fuel ('\'' :: word) (c.skipMany 2)
      else if d == quote then .ok (word, false, c)
      else if quote == '"' && d == '\\' then
        if c.seesAny isBreak 1 then .ok (word, true, c.skip.skipLine)
        else do
          let (e, c) ← readEscape start c
          readQuotedWord quote start fuel (e :: word) c
      else readQuotedWord quote start fuel (d :: word) c.skip

/-- Reads a quoted scalar behind its opening quote. -/
def readQuoted (quote : Char) (start : Mark) :
    Nat → List Char → Cursor → Except SyntaxError (List Char × Cursor)
  | 0, _, c => faultIn .quotedScalar start c .endInQuotes
  | fuel + 1, text, c => do
    if c.atDocumentIndicator then faultIn .quotedScalar start c .indicatorInQuotes
    if c.atEnd then faultIn .quotedScalar start c .endInQuotes
    let (word, escaped, c) ← readQuotedWord quote start (c.rest.length + 1) [] c
    let text := text ++ word.reverse
    if c.sees quote 0 then return (text, c.skip)
    match readGap 0 (c.rest.length + 1) { Gap.none with broken := escaped } c with
    | .error _ => return (text, c)
    | .ok (g, c) => readQuoted quote start fuel (text ++ g.text) c

/-! ## Block scalars -/

/-- What happens to the line ends behind a block scalar: all dropped, one kept or all kept. -/
inductive Chomping
  | strip
  | clip
  | keep
deriving DecidableEq

/-- The line ends before the next line of a block scalar and the indentation of its lines, which is the
widest one seen if it was not known. -/
def readBlockBreaks (start : Mark) (outer : Int) (indent : Nat) :
    Nat → Nat → List Char → Cursor → Except SyntaxError (Nat × List Char × Cursor)
  | 0, _, breaks, c => .ok (indent, breaks, c)
  | fuel + 1, widest, breaks, c =>
    let room := if indent = 0 then c.rest.length else indent - c.mark.column
    let c := c.skipMany ((c.rest.takeWhile (· == ' ')).take room).length
    let widest := Nat.max widest c.mark.column
    if (indent = 0 || c.mark.column < indent) && c.sees '\t' 0 then
      faultIn .blockScalar start c .tabInIndentation
    else if c.atBreak then
      readBlockBreaks start outer indent fuel widest (breaks ++ c.readBreak) c.skipLine
    else
      let indent := if indent = 0 then Nat.max (Nat.max widest (outer + 1).toNat) 1 else indent
      .ok (indent, breaks, c)

/-- Reads the lines of a block scalar; `lineEnd` is the end of the line before and `afterBlank` says
that it started with a blank. -/
def readBlockLines (literal : Bool) (start : Mark) (indent : Nat) :
    Nat → List Char → List Char → List Char → Bool → Cursor →
      Except SyntaxError (List Char × List Char × List Char × Cursor)
  | 0, text, lineEnd, breaks, _, c => .ok (text, lineEnd, breaks, c)
  | fuel + 1, text, lineEnd, breaks, afterBlank, c => do
    if c.mark.column ≠ indent || c.atEnd then return (text, lineEnd, breaks, c)
    let joined :=
      if !literal && lineEnd = ['\n'] && !afterBlank && !c.atBlank then
        if breaks.isEmpty then [' '] else []
      else lineEnd
    let behind := c.skipWhile (!isBreak ·)
    let line := c.rest.take (behind.mark.index - c.mark.index)
    let next := behind.skipLine
    let (_, later, next) ← readBlockBreaks start 0 indent (next.rest.length + 1) 0 [] next
    readBlockLines literal start indent fuel (text ++ joined ++ breaks ++ line) behind.readBreak later
      c.atBlank next

/-- Reads the chomping indicator and the indentation digit behind the sign of a block scalar. -/
def readBlockHeader (start : Mark) (c : Cursor) : Except SyntaxError (Chomping × Nat × Cursor) := do
  let chomping (c : Cursor) : Option Chomping :=
    if c.sees '+' 0 then some .keep else if c.sees '-' 0 then some .strip else none
  let digit (c : Cursor) : Except SyntaxError (Option Nat) :=
    match c.look 0 with
    | some d =>
      if d == '0' then faultIn .blockScalar start c .zeroIndentation
      else if d.isDigit then .ok (some (d.toNat - '0'.toNat))
      else .ok none
    | none => .ok none
  match chomping c with
  | some how =>
    match ← digit c.skip with
    | some n => pure (how, n, c.skipMany 2)
    | none => pure (how, 0, c.skip)
  | none =>
    match ← digit c with
    | some n =>
      match chomping c.skip with
      | some how => pure (how, n, c.skipMany 2)
      | none => pure (.clip, n, c.skip)
    | none => pure (.clip, 0, c)

/-- Reads a block scalar at its sign; `outer` is the indentation of the block around it. -/
def readBlock (literal : Bool) (outer : Int) (c : Cursor) : Except SyntaxError ScalarText := do
  let start := c.mark
  let (chomping, extra, c) ← readBlockHeader start c.skip
  let c := (c.skipWhile isBlank).skipComment
  if !c.atBreakOrEnd then faultIn .blockScalar start c .blockScalarHeader
  let c := c.skipLine
  let indent := if extra = 0 then 0 else if 0 ≤ outer then outer.toNat + extra else extra
  let (indent, breaks, c) ← readBlockBreaks start outer indent (c.rest.length + 1) 0 [] c
  let (text, lineEnd, breaks, c) ←
    readBlockLines literal start indent (c.rest.length + 1) [] [] breaks false c
  let tail := match chomping with
    | .strip => []
    | .clip => lineEnd
    | .keep => lineEnd ++ breaks
  pure ⟨String.ofList (text ++ tail), c, false⟩

end Lookout.Yaml
