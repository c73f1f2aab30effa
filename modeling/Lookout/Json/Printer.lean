import Lookout.Json.Basic

/-!
# Printing documents

The compact text of a document, without any blanks, and the indented text with one member or item to
a line.
-/

namespace Lookout.Json

/-- The two lower-case hexadecimal digits of a small number. -/
def hexByte (n : Nat) : List Char := [Nat.digitChar (n / 16), Nat.digitChar (n % 16)]

/-- The written form of one character inside quotes. -/
def escapeChar (c : Char) : List Char :=
  match c with
  | '"' => ['\\', '"']
  | '\\' => ['\\', '\\']
  | '\x08' => ['\\', 'b']
  | '\x0c' => ['\\', 'f']
  | '\n' => ['\\', 'n']
  | '\x0d' => ['\\', 'r']
  | '\t' => ['\\', 't']
  | c => if c.toNat < 0x20 then ['\\', 'u', '0', '0'] ++ hexByte c.toNat else [c]

/-- A text in quotes. -/
def printString (s : String) : List Char := '"' :: (s.toList.flatMap escapeChar ++ ['"'])

/-- The digits of a whole number, with a sign if it is negative. -/
def printInt (n : Int) : List Char :=
  if n < 0 then '-' :: Nat.toDigits 10 n.natAbs else Nat.toDigits 10 n.natAbs

/-- A number. -/
def printNumber : Number → List Char
  | .whole n _ => printInt n
  | .real x _ => x.text

mutual

/-- The compact text of a document. -/
def print : Json → List Char
  | .null => ['n', 'u', 'l', 'l']
  | .bool true => ['t', 'r', 'u', 'e']
  | .bool false => ['f', 'a', 'l', 's', 'e']
  | .num n => printNumber n
  | .str s => printString s
  | .arr items => '[' :: printItems items
  | .obj fields => '\x7b' :: printFields fields

/-- The items of a list up to and with its closing bracket. -/
def printItems : List Json → List Char
  | [] => [']']
  | [item] => print item ++ [']']
  | item :: next :: rest => print item ++ ',' :: printItems (next :: rest)

/-- The members of an object up to and with its closing brace. -/
def printFields : List (String × Json) → List Char
  | [] => ['\x7d']
  | [(name, value)] => printString name ++ ':' :: (print value ++ ['\x7d'])
  | (name, value) :: next :: rest =>
    printString name ++ ':' :: (print value ++ ',' :: printFields (next :: rest))

end

/-- The compact text of a document as a string. -/
def text (v : Json) : String := String.ofList v.print

/-- A line end and the blanks that start a line at the given depth. -/
def newLine (depth : Nat) : List Char := '\n' :: List.replicate (2 * depth) ' '

mutual

/-- The indented text of a document that stands at the given depth. -/
def printIndented (depth : Nat) : Json → List Char
  | .arr [] => ['[', ']']
  | .arr (item :: rest) => '[' :: printIndentedItems depth (item :: rest)
  | .obj [] => ['\x7b', '\x7d']
  | .obj (field :: rest) => '\x7b' :: printIndentedFields depth (field :: rest)
  | .null => print .null
  | .bool b => print (.bool b)
  | .num n => print (.num n)
  | .str s => print (.str s)

/-- The items of a list, one to a line, up to and with its closing bracket. -/
def printIndentedItems (depth : Nat) : List Json → List Char
  | [] => newLine depth ++ [']']
  | [item] => newLine (depth + 1) ++ printIndented (depth + 1) item ++ newLine depth ++ [']']
  | item :: next :: rest =>
    newLine (depth + 1) ++ printIndented (depth + 1) item ++
      ',' :: printIndentedItems depth (next :: rest)

/-- The members of an object, one to a line, up to and with its closing brace. -/
def printIndentedFields (depth : Nat) : List (String × Json) → List Char
  | [] => newLine depth ++ ['\x7d']
  | [(name, value)] =>
    newLine (depth + 1) ++ printString name ++ ':' :: ' ' :: printIndented (depth + 1) value ++
      newLine depth ++ ['\x7d']
  | (name, value) :: next :: rest =>
    newLine (depth + 1) ++ printString name ++ ':' :: ' ' :: printIndented (depth + 1) value ++
      ',' :: printIndentedFields depth (next :: rest)

end

/-- The indented text of a document. -/
def indentedText (v : Json) : String := String.ofList (v.printIndented 0)

end Lookout.Json
