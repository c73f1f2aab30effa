/-!
# Keys

What the keyboard sends: a key and the modifiers that are held.

* **`isCharacter_plain`** — a plain key stroke for a character is one for that character.
-/

namespace Lookout

/-- A key. Left out are the keys that nothing asks for, of which all that take in a key do what they do by
default: the one without a code, the locks, the keys for printing, pausing, the menu and the middle of the
keypad, and those for media and for modifiers alone. -/
inductive KeyCode
  | char (c : Char)
  | escape
  | enter
  | backspace
  | delete
  | left
  | right
  | up
  | down
  | home
  | finish
  | tab
  | backTab
  | pageUp
  | pageDown
  | insert
  | function (n : Nat)
deriving DecidableEq, Inhabited

/-- A key with the modifiers that are held. -/
structure Key where
  code : KeyCode
  control : Bool := false
  alt : Bool := false
  shift : Bool := false
deriving DecidableEq, Inhabited

namespace Key

/-- The key for a character without modifiers. -/
def plain (c : Char) : Key := { code := .char c }

/-- The key is the one for a character, whatever modifiers are held. -/
def isCharacter (k : Key) (c : Char) : Bool := k.code = .char c

/-- A plain key stroke for a character is one for that character. -/
@[simp] theorem isCharacter_plain (c : Char) : (plain c).isCharacter c = true := by
  simp [plain, isCharacter]

end Key

end Lookout
