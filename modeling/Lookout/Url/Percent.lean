import Lookout.Text.Ranges

/-!
# Percent encoding

Writing the bytes of characters that a part of an address must not contain as a percent sign and two
hexadecimal digits, and reading them back.

* **`percentEncode_nil`** — nothing is added to an empty text.
-/

namespace Lookout.Url

/-- The control characters and everything beyond ASCII, which every part of an address encodes. -/
def isControl (c : Char) : Bool := c.toNat < 0x20 || 0x7e < c.toNat

/-- What a fragment encodes. -/
def inFragmentSet (c : Char) : Bool := isControl c || [' ', '"', '<', '>', '\x60'].contains c

/-- What a path encodes. -/
def inPathSet (c : Char) : Bool := inFragmentSet c || ['#', '?', '\x7b', '\x7d'].contains c

/-- What a user name or password encodes. -/
def inUserInfoSet (c : Char) : Bool :=
  inPathSet c || ['/', ':', ';', '=', '@', '[', '\\', ']', '^', '|'].contains c

/-- What a single path segment encodes, so that it stays one segment. -/
def inSegmentSet (c : Char) : Bool := inPathSet c || ['/', '%', '\\'].contains c

/-- What a query encodes. -/
def inQuerySet (c : Char) : Bool := isControl c || [' ', '"', '#', '<', '>'].contains c

/-- What the query of a web address encodes. -/
def inSpecialQuerySet (c : Char) : Bool := inQuerySet c || c == '\x27'

/-- The upper-case hexadecimal digit of a number below sixteen. -/
def hexDigit (n : Nat) : Char := if n < 10 then Char.ofNat (48 + n) else Char.ofNat (55 + n)

/-- A percent sign and the two digits of a byte. -/
def percentByte (b : UInt8) : List Char :=
  ['%', hexDigit (b.toNat / 16), hexDigit (b.toNat % 16)]

/-- Encodes the characters of the set and keeps the others. -/
def percentEncode (set : Char → Bool) (cs : List Char) : List Char :=
  cs.flatMap fun c => if set c then (String.utf8EncodeChar c).flatMap percentByte else [c]

/-- The value of a hexadecimal digit. -/
def hexValue? (c : Char) : Option Nat :=
  if '0' ≤ c && c ≤ '9' then some (c.toNat - 48)
  else if 'a' ≤ c && c ≤ 'f' then some (c.toNat - 87)
  else if 'A' ≤ c && c ≤ 'F' then some (c.toNat - 55)
  else none

/-- The bytes of a text, each percent sign with two digits read as the byte that it stands for. -/
def percentDecode : List Char → List UInt8
  | '%' :: a :: b :: rest =>
    match hexValue? a, hexValue? b with
    | some x, some y => UInt8.ofNat (x * 16 + y) :: percentDecode rest
    | _, _ => 37 :: percentDecode (a :: b :: rest)
  | c :: rest => String.utf8EncodeChar c ++ percentDecode rest
  | [] => []

/-- The text of bytes that are well-formed UTF-8. -/
def textOfBytes? (bytes : List UInt8) : Option (List Char) :=
  (String.fromUTF8? ⟨bytes.toArray⟩).map String.toList

@[simp] theorem percentEncode_nil (set : Char → Bool) : percentEncode set [] = [] := rfl

theorem percentEncode_append (set : Char → Bool) (a b : List Char) :
    percentEncode set (a ++ b) = percentEncode set a ++ percentEncode set b := by
  simp [percentEncode]

end Lookout.Url
