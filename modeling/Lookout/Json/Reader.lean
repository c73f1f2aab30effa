import Lookout.Json.NumberReader

/-!
# Reading documents

Reading a document from its text. Lists and objects nest at most 127 deep, a later member replaces an
earlier one of the same name, and nothing but blanks may follow. Reading can also skip a document
that nobody looks at: then depth, number range and the pairing of surrogates do not matter.
-/

namespace Lookout.Json

/-- The depth to which lists and objects may nest. -/
def maxDepth : Nat := 127

/-- A blank between the parts of a document. -/
def isBlank (c : Char) : Bool := c == ' ' || c == '\n' || c == '\t' || c == '\x0d'

/-- The text without the blanks at its start. -/
def skipBlanks (cs : List Char) : List Char := cs.dropWhile isBlank

/-- The value of a hexadecimal digit. -/
def hexValue? (c : Char) : Option Nat :=
  if c.isDigit then some (c.toNat - '0'.toNat)
  else if 'a' ≤ c && c ≤ 'f' then some (c.toNat - 'a'.toNat + 10)
  else if 'A' ≤ c && c ≤ 'F' then some (c.toNat - 'A'.toNat + 10)
  else none

/-- The value of four hexadecimal digits. -/
def hexUnit? (a b c d : Char) : Option Nat := do
  let a ← hexValue? a
  let b ← hexValue? b
  let c ← hexValue? c
  let d ← hexValue? d
  pure (((a * 16 + b) * 16 + c) * 16 + d)

/-- The unit is the first half of a surrogate pair. -/
def isHighHalf (n : Nat) : Bool := 0xd800 ≤ n && n < 0xdc00

/-- The unit is the second half of a surrogate pair. -/
def isLowHalf (n : Nat) : Bool := 0xdc00 ≤ n && n < 0xe000

/-- The character that stands for a lone half in a skipped text. -/
def replacement : Char := '\ufffd'

/-- Reads a text behind its opening quote up to and with the closing one. A half of a surrogate pair
without its partner is refused unless `skipping`. -/
def readString (skipping : Bool) : List Char → Option (List Char × List Char)
  | '"' :: rest => some ([], rest)
  | '\\' :: '"' :: rest => (readString skipping rest).map fun (s, r) => ('"' :: s, r)
  | '\\' :: '\\' :: rest => (readString skipping rest).map fun (s, r) => ('\\' :: s, r)
  | '\\' :: '/' :: rest => (readString skipping rest).map fun (s, r) => ('/' :: s, r)
  | '\\' :: 'b' :: rest => (readString skipping rest).map fun (s, r) => ('\x08' :: s, r)
  | '\\' :: 'f' :: rest => (readString skipping rest).map fun (s, r) => ('\x0c' :: s, r)
  | '\\' :: 'n' :: rest => (readString skipping rest).map fun (s, r) => ('\n' :: s, r)
  | '\\' :: 'r' :: rest => (readString skipping rest).map fun (s, r) => ('\x0d' :: s, r)
  | '\\' :: 't' :: rest => (readString skipping rest).map fun (s, r) => ('\t' :: s, r)
  | '\\' :: 'u' :: a :: b :: c :: d :: '\\' :: 'u' :: e :: f :: g :: h :: rest =>
    match hexUnit? a b c d with
    | none => none
    | some high =>
      match isHighHalf high, hexUnit? e f g h with
      | true, some low =>
        if isLowHalf low then
          (readString skipping rest).map fun (s, r) =>
            (Char.ofNat (0x10000 + (high - 0xd800) * 0x400 + (low - 0xdc00)) :: s, r)
        else if skipping then
          (readString skipping ('\\' :: 'u' :: e :: f :: g :: h :: rest)).map fun (s, r) =>
            (replacement :: s, r)
        else none
      | _, _ =>
        if isHighHalf high || isLowHalf high then
          if skipping then
            (readString skipping ('\\' :: 'u' :: e :: f :: g :: h :: rest)).map fun (s, r) =>
              (replacement :: s, r)
          else none
        else
          (readString skipping ('\\' :: 'u' :: e :: f :: g :: h :: rest)).map fun (s, r) =>
            (Char.ofNat high :: s, r)
  | '\\' :: 'u' :: a :: b :: c :: d :: rest =>
    match hexUnit? a b c d with
    | none => none
    | some n =>
      if isHighHalf n || isLowHalf n then
        if skipping then (readString skipping rest).map fun (s, r) => (replacement :: s, r)
        else none
      else (readString skipping rest).map fun (s, r) => (Char.ofNat n :: s, r)
  | '\\' :: _ => none
  | c :: rest =>
    if c.toNat < 0x20 then none else (readString skipping rest).map fun (s, r) => (c :: s, r)
  | [] => none

/-- Skips the number at the start of a text without looking at its size. -/
def skipNumber (cs : List Char) : Option (List Char) :=
  let magnitude := match cs with
    | '-' :: rest => rest
    | rest => rest
  match spanDigits magnitude with
  | ([], _) => none
  | ('0' :: _ :: _, _) => none
  | (_, rest) =>
    let behindPlaces : Option (List Char) := match rest with
      | '.' :: rest =>
        match spanDigits rest with
        | ([], _) => none
        | (_, rest) => some rest
      | rest => some rest
    match behindPlaces with
    | none => none
    | some ('e' :: rest) | some ('E' :: rest) =>
      let digits := match rest with
        | '+' :: rest => rest
        | '-' :: rest => rest
        | rest => rest
      match spanDigits digits with
      | ([], _) => none
      | (_, rest) => some rest
    | some rest => some rest

/-- Reads the name of a member and the colon behind it. -/
def readName (skipping : Bool) (cs : List Char) : Option (String × List Char) :=
  match skipBlanks cs with
  | '"' :: rest =>
    match readString skipping rest with
    | none => none
    | some (name, rest) =>
      match skipBlanks rest with
      | ':' :: rest => some (String.ofList name, rest)
      | _ => none
  | _ => none

mutual

/-- Reads the document at the start of a text; `fuel` bounds the number of its parts and `depth` how
deep lists and objects may still nest. -/
def readValue (skipping : Bool) : Nat → Nat → List Char → Option (Json × List Char)
  | 0, _, _ => none
  | fuel + 1, depth, cs =>
    match skipBlanks cs with
    | 'n' :: 'u' :: 'l' :: 'l' :: rest => some (.null, rest)
    | 't' :: 'r' :: 'u' :: 'e' :: rest => some (.bool true, rest)
    | 'f' :: 'a' :: 'l' :: 's' :: 'e' :: rest => some (.bool false, rest)
    | '"' :: rest => (readString skipping rest).map fun (s, r) => (.str (String.ofList s), r)
    | '[' :: rest =>
      match depth with
      | 0 => none
      | depth + 1 =>
        match skipBlanks rest with
        | ']' :: rest => some (.arr [], rest)
        | rest => (readItems skipping fuel depth rest).map fun (items, r) => (.arr items, r)
    | '\x7b' :: rest =>
      match depth with
      | 0 => none
      | depth + 1 =>
        match skipBlanks rest with
        | '\x7d' :: rest => some (.obj [], rest)
        | rest =>
          (readFields skipping fuel depth rest).map fun (fields, r) =>
            (.obj (sortFields fields), r)
    | rest =>
      if skipping then (skipNumber rest).map fun r => (.null, r)
      else (readNumber rest).map fun (n, r) => (.num n, r)

/-- Reads the items of a list up to and with its closing bracket. -/
def readItems (skipping : Bool) : Nat → Nat → List Char → Option (List Json × List Char)
  | 0, _, _ => none
  | fuel + 1, depth, cs =>
    match readValue skipping fuel depth cs with
    | none => none
    | some (item, rest) =>
      match skipBlanks rest with
      | ']' :: rest => some ([item], rest)
      | ',' :: rest => (readItems skipping fuel depth rest).map fun (items, r) => (item :: items, r)
      | _ => none

/-- Reads the members of an object up to and with its closing brace. -/
def readFields (skipping : Bool) : Nat → Nat → List Char → Option (List (String × Json) × List Char)
  | 0, _, _ => none
  | fuel + 1, depth, cs =>
    match readName skipping cs with
    | none => none
    | some (name, rest) =>
      match readValue skipping fuel depth rest with
      | none => none
      | some (value, rest) =>
        match skipBlanks rest with
        | '\x7d' :: rest => some ([(name, value)], rest)
        | ',' :: rest =>
          (readFields skipping fuel depth rest).map fun (fields, r) => ((name, value) :: fields, r)
        | _ => none

end

/-- Reads a text that holds one document nested at most `depth` deep. -/
def parseWithin (depth : Nat) (s : String) : Option Json :=
  let cs := s.toList
  match readValue false (2 * cs.length + 2) depth cs with
  | some (v, rest) => if (skipBlanks rest).isEmpty then some v else none
  | none => none

/-- Reads a text that holds one document. -/
def parse? (s : String) : Option Json := parseWithin maxDepth s

end Lookout.Json
