import Lookout.Decode.Mismatch
import Lookout.Json.Printer

/-!
# Decoding documents

Readers that turn a document into a value of a known shape. A record is read from an object, where
each known member sets one field and others are passed over, or from a list, where the fields come in
their order. Every field has a starting value, so a member that is missing leaves it in place.

* **`readMembers_unknown`** — an unknown member does not matter.
-/

namespace Lookout.Decode

/-- A reader of documents. -/
abbrev Reader (α : Type) := Json → Except Mismatch α

/-- The document is of another type than expected. -/
def mistyped {α : Type} (expected : String) (v : Json) : Except Mismatch α :=
  .error (.wrongType (.ofJson v) expected)

/-- Reads a text. -/
def readText : Reader String
  | .str s => .ok s
  | v => mistyped "a string" v

/-- Reads a truth value. -/
def readBool : Reader Bool
  | .bool b => .ok b
  | v => mistyped "a boolean" v

/-- Reads a whole number of 32 bits. -/
def readUInt32 : Reader UInt32
  | .num (.whole n _) =>
    if 0 ≤ n && n < 0x100000000 then .ok (UInt32.ofNat n.toNat)
    else .error (.wrongValue (.whole n) "u32")
  | v => mistyped "u32" v

/-- Reads a whole number of 64 bits with a sign. -/
def readInt64 : Reader Int
  | .num (.whole n _) =>
    if n < 0x8000000000000000 then .ok n else .error (.wrongValue (.whole n) "i64")
  | v => mistyped "i64" v

/-- Reads a number in double precision. -/
def readReal : Reader Binary64
  | .num (.whole n _) => .ok (.ofInt n)
  | .num (.real x _) => .ok x
  | v => mistyped "f64" v

/-- Reads null as nothing and anything else with the given reader. -/
def readOptional {α : Type} (read : Reader α) : Reader (Option α)
  | .null => .ok none
  | v => (read v).map some

/-- Reads null as the default and anything else with the given reader. -/
def readOrDefault {α : Type} (default : α) (read : Reader α) : Reader α
  | .null => .ok default
  | v => read v

/-- Reads the items of a list, the first failure first. -/
def readEach {α : Type} (read : Reader α) : List Json → Except Mismatch (List α)
  | [] => .ok []
  | v :: rest =>
    match read v with
    | .error e => .error e
    | .ok x =>
      match readEach read rest with
      | .error e => .error e
      | .ok xs => .ok (x :: xs)

/-- Reads a list. -/
def readList {α : Type} (read : Reader α) : Reader (List α)
  | .arr items => readEach read items
  | v => mistyped "a sequence" v

/-- Reads an identifier: a text as it is, null as the empty text, anything else by its compact
text. -/
def readIdentifier : Reader String
  | .str s => .ok s
  | .null => .ok ""
  | v => .ok v.text

/-- A known member of a record: its names, whether it must be there, and how it changes the
record. -/
structure Field (ρ : Type) where
  name : String
  aliases : List String
  required : Bool
  read : Json → ρ → Except Mismatch ρ

/-- The member name is one of the field's names. -/
def Field.answersTo {ρ : Type} (f : Field ρ) (name : String) : Bool :=
  f.name == name || f.aliases.contains name

/-- A field that may be missing. -/
def Field.optional {ρ α : Type} (name : String) (aliases : List String) (read : Reader α)
    (set : α → ρ → ρ) : Field ρ where
  name := name
  aliases := aliases
  required := false
  read v r := (read v).map fun x => set x r

/-- A field that must be there. -/
def Field.mandatory {ρ α : Type} (name : String) (read : Reader α) (set : α → ρ → ρ) :
    Field ρ :=
  { Field.optional name [] read set with required := true }

/-- A kind of record: its name, its fields in order and the record that nothing has been read
into. -/
structure Record (ρ : Type) where
  name : String
  fields : List (Field ρ)
  initial : ρ

/-- Reads the members of an object in order; `seen` holds the fields already set. -/
def readMembers {ρ : Type} (fields : List (Field ρ)) :
    List String → ρ → List (String × Json) → Except Mismatch (List String × ρ)
  | seen, r, [] => .ok (seen, r)
  | seen, r, (name, v) :: rest =>
    match fields.find? (·.answersTo name) with
    | none => readMembers fields seen r rest
    | some f =>
      if seen.contains f.name then .error (.duplicateField f.name)
      else
        match f.read v r with
        | .error e => .error e
        | .ok r => readMembers fields (f.name :: seen) r rest

/-- Reads the items of a list into the fields in order; `position` counts the items read. -/
def readPositions {ρ : Type} (expected : String) (total : Nat) :
    Nat → List (Field ρ) → ρ → List Json → Except Mismatch ρ
  | _, [], r, [] => .ok r
  | _, [], _, _ :: _ => .error (.wrongLength total "fewer elements in array")
  | position, f :: fields, r, [] =>
    if f.required then .error (.wrongLength position expected)
    else readPositions expected total (position + 1) fields r []
  | position, f :: fields, r, v :: rest =>
    match f.read v r with
    | .error e => .error e
    | .ok r => readPositions expected total (position + 1) fields r rest

/-- Reads a record. -/
def Record.read {ρ : Type} (kind : Record ρ) : Reader ρ
  | .obj members =>
    match readMembers kind.fields [] kind.initial members with
    | .error e => .error e
    | .ok (seen, r) =>
      match kind.fields.find? (fun f => f.required && !seen.contains f.name) with
      | some f => .error (.missingField f.name)
      | none => .ok r
  | .arr items =>
    readPositions s!"struct {kind.name} with {kind.fields.length} elements" items.length 0 kind.fields
      kind.initial items
  | v => mistyped ("struct " ++ kind.name) v

/-- An unknown member does not matter. -/
theorem readMembers_unknown {ρ : Type} {fields : List (Field ρ)} {name : String}
    (unknown : ∀ f ∈ fields, f.answersTo name = false) (seen : List String) (r : ρ) (v : Json)
    (rest : List (String × Json)) :
    readMembers fields seen r ((name, v) :: rest) = readMembers fields seen r rest := by
  have none : fields.find? (·.answersTo name) = none := by
    simpa [List.find?_eq_none] using unknown
  simp [readMembers, none]

end Lookout.Decode
