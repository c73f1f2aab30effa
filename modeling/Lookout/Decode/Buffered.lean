import Lookout.Decode.Mismatch

/-!
# Buffered values

A value of any source kept until the tag beside it tells how to read it. Keys of maps may be values
of any kind.
-/

namespace Lookout.Decode

/-- A value of any source. -/
inductive Buffered
  | empty
  | absent
  | bool (value : Bool)
  | whole (value : Int)
  | real (value : Binary64)
  | text (value : String)
  | list (items : List Buffered)
  | map (entries : List (Buffered × Buffered))
deriving Inhabited

namespace Buffered

/-- What a buffered value is, where something else was expected. -/
def found : Buffered → Found
  | .empty => .empty
  | .absent => .absent
  | .bool b => .bool b
  | .whole n => .whole n
  | .real x => .real x
  | .text s => .text s
  | .list _ => .sequence
  | .map _ => .map

/-- The value is of another type than expected. -/
def mistyped {α : Type} (expected : String) (v : Buffered) : Except Mismatch α :=
  .error (.wrongType v.found expected)

mutual

/-- A document kept for later. -/
def ofJson : Json → Buffered
  | .null => .empty
  | .bool b => .bool b
  | .num (.whole n _) => .whole n
  | .num (.real x _) => .real x
  | .str s => .text s
  | .arr items => .list (ofItems items)
  | .obj fields => .map (ofFields fields)

/-- The items of a list kept for later. -/
def ofItems : List Json → List Buffered
  | [] => []
  | v :: rest => ofJson v :: ofItems rest

/-- The members of an object kept for later. -/
def ofFields : List (String × Json) → List (Buffered × Buffered)
  | [] => []
  | (name, v) :: rest => (.text name, ofJson v) :: ofFields rest

end

end Buffered

end Lookout.Decode
