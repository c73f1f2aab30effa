import Lookout.Json.Basic
import Lookout.Text.Quoted

/-!
# Mismatches

Why a value does not have the wanted shape, and the text that says so. Documents and configuration
files name the empty value and write real numbers in different ways, so the text takes the dialect of
the source.
-/

namespace Lookout.Decode

/-- The kind of source that a value was read from. -/
inductive Dialect
  | document
  | configuration
deriving DecidableEq

/-- What was found in place of the expected value. -/
inductive Found
  | empty
  | absent
  | bool (value : Bool)
  | whole (value : Int)
  | hugeWhole (value : Int)
  | real (value : Binary64)
  | text (value : String)
  | sequence
  | map
  | enumeration
deriving DecidableEq

/-- Why a value does not have the wanted shape. -/
inductive Mismatch
  | wrongType (found : Found) (expected : String)
  | wrongValue (found : Found) (expected : String)
  | wrongLength (length : Nat) (expected : String)
  | missingField (name : String)
  | duplicateField (name : String)
  | unknownVariant (name : String) (known : List String)
  | numberOutOfRange
  | taggedValue
deriving DecidableEq

/-- A word between the marks that set off names and values. -/
def marked (s : String) : String := "\x60" ++ s ++ "\x60"

/-- A real number as the dialect writes it. -/
def Dialect.realText (dialect : Dialect) (x : Binary64) : String :=
  match dialect with
  | .document => String.ofList x.text
  | .configuration => String.ofList x.plainText

/-- The words for what was found. -/
def Found.describe (dialect : Dialect) : Found → String
  | .empty => if dialect = .document then "null" else "unit value"
  | .absent => "Option value"
  | .bool b => "boolean " ++ marked (if b then "true" else "false")
  | .whole n => "integer " ++ marked (toString n)
  | .hugeWhole n => "integer " ++ marked (toString n) ++ (if n < 0 then " as i128" else " as u128")
  | .real x => "floating point " ++ marked (dialect.realText x)
  | .text s => "string " ++ Text.quote s
  | .sequence => "sequence"
  | .map => "map"
  | .enumeration => "enum"

/-- The known names of a choice, in words. -/
def knownNames : List String → String
  | [] => "there are no variants"
  | [a] => "expected " ++ marked a
  | [a, b] => "expected " ++ marked a ++ " or " ++ marked b
  | names => "expected one of " ++ ", ".intercalate (names.map marked)

/-- The text of a mismatch. -/
def Mismatch.message (dialect : Dialect) : Mismatch → String
  | .wrongType found expected =>
    "invalid type: " ++ found.describe dialect ++ ", expected " ++ expected
  | .wrongValue found expected =>
    "invalid value: " ++ found.describe dialect ++ ", expected " ++ expected
  | .wrongLength length expected =>
    "invalid length " ++ toString length ++ ", expected " ++ expected
  | .missingField name => "missing field " ++ marked name
  | .duplicateField name => "duplicate field " ++ marked name
  | .unknownVariant name known => "unknown variant " ++ marked name ++ ", " ++ knownNames known
  | .numberOutOfRange => "JSON number out of range"
  | .taggedValue => "untagged and internally tagged enums do not support enum input"

/-- What a document is, where something else was expected. -/
def Found.ofJson : Json → Found
  | .null => .empty
  | .bool b => .bool b
  | .num (.whole n _) => .whole n
  | .num (.real x _) => .real x
  | .str s => .text s
  | .arr _ => .sequence
  | .obj _ => .map

end Lookout.Decode
