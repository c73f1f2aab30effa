import Lookout.Decode.Buffered
import Lookout.Yaml.Document
import Lookout.Yaml.Plain

/-!
# Reading nodes

Readers that turn nodes into values of known shapes. What goes wrong is told with the path of the node
and the place where it starts; an error that no node owns belongs to the node around it. Aliases are
followed as often as a hundred times the size of the document, and nodes nest 128 deep.

* **`located_ok`** — a location does not change what is read.
-/

namespace Lookout.Yaml

open Decode

/-! ## Paths and errors -/

/-- Where a node is in its document. -/
inductive Path
  | root
  | item (parent : Path) (index : Nat)
  | field (parent : Path) (name : String)
  | unnamed (parent : Path)
deriving DecidableEq

/-- The text of a path; the root is a point. -/
def Path.text : Path → String
  | .root => "."
  | .item parent i => parent.text ++ s!"[{i}]"
  | .field .root name => name
  | .field parent name => parent.text ++ "." ++ name
  | .unnamed .root => "?"
  | .unnamed parent => parent.text ++ ".?"

/-- Why a document could not be read. -/
inductive ReadError
  | mismatch (what : Mismatch) (place : Option (Mark × Path))
  | brokenText (error : SyntaxError)
  | tooDeep (mark : Mark)
  | tooManyAliases
  | noValue
  | severalDocuments
deriving DecidableEq

/-- A text with the place that it is about, unless that is the very start. -/
def textAt (text : String) (mark : Mark) : String :=
  if mark.isOrigin then text else text ++ " at " ++ mark.text

/-- The text of an error. -/
def ReadError.message : ReadError → String
  | .mismatch what none => what.message .configuration
  | .mismatch what (some (mark, path)) =>
    let text := what.message .configuration
    textAt (if path = .root then text else path.text ++ ": " ++ text) mark
  | .brokenText error => error.message
  | .tooDeep mark => textAt "recursion limit exceeded" mark
  | .tooManyAliases => "repetition limit exceeded"
  | .noValue => "EOF while parsing a value"
  | .severalDocuments => "deserializing from YAML containing more than one document is not supported"

/-! ## Nodes of a document -/

mutual

/-- How many parts a node has, where the end of a collection is a part too. -/
def Node.size : Node → Nat
  | .scalar _ _ _ | .alias _ _ | .absent _ => 1
  | .sequence _ items => 2 + sizeOfItems items
  | .mapping _ entries => 2 + sizeOfEntries entries
  | .cut _ => 0

/-- How many parts the items of a sequence have. -/
def sizeOfItems : List Node → Nat
  | [] => 0
  | node :: rest => node.size + sizeOfItems rest

/-- How many parts the entries of a mapping have. -/
def sizeOfEntries : List (Node × Node) → Nat
  | [] => 0
  | (key, value) :: rest => key.size + value.size + sizeOfEntries rest

end

mutual

/-- The last node in the document that has the anchor of a number. -/
def Node.find? (number : Nat) : Node → Option Node
  | .scalar p style text => if p.anchor = some number then some (.scalar p style text) else none
  | .sequence p items =>
    match findInItems? number items with
    | some node => some node
    | none => if p.anchor = some number then some (.sequence p items) else none
  | .mapping p entries =>
    match findInEntries? number entries with
    | some node => some node
    | none => if p.anchor = some number then some (.mapping p entries) else none
  | .alias _ _ | .absent _ | .cut _ => none

/-- The last node among the items that has the anchor of a number. -/
def findInItems? (number : Nat) : List Node → Option Node
  | [] => none
  | node :: rest =>
    match findInItems? number rest with
    | some found => some found
    | none => node.find? number

/-- The last node among the entries that has the anchor of a number. -/
def findInEntries? (number : Nat) : List (Node × Node) → Option Node
  | [] => none
  | (key, value) :: rest =>
    match findInEntries? number rest with
    | some found => some found
    | none =>
      match value.find? number with
      | some found => some found
      | none => key.find? number

end

mutual

/-- The error at which a node breaks off. -/
def Node.broken? : Node → Option SyntaxError
  | .cut e => some e
  | .sequence _ items => brokenInItems? items
  | .mapping _ entries => brokenInEntries? entries
  | .scalar _ _ _ | .alias _ _ | .absent _ => none

/-- The error at which the items of a sequence break off. -/
def brokenInItems? : List Node → Option SyntaxError
  | [] => none
  | node :: rest =>
    match node.broken? with
    | some e => some e
    | none => brokenInItems? rest

/-- The error at which the entries of a mapping break off. -/
def brokenInEntries? : List (Node × Node) → Option SyntaxError
  | [] => none
  | (key, value) :: rest =>
    match key.broken? with
    | some e => some e
    | none =>
      match value.broken? with
      | some e => some e
      | none => brokenInEntries? rest

end

/-! ## Readers -/

/-- What a node is read in: the whole document, the path of the node and how deep its parts may
nest. -/
structure Context where
  root : Node
  path : Path
  depth : Nat

/-- A computation that counts down the aliases that may still be followed. -/
abbrev Reads (α : Type) := StateT Nat (Except ReadError) α

/-- A reader of nodes. -/
abbrev NodeReader (α : Type) := Context → Node → Reads α

/-- The value does not have the wanted shape. -/
def mismatched {α : Type} (what : Mismatch) : Reads α := throw (.mismatch what none)

/-- A mismatch without a place happens at the given one. -/
def located {α : Type} (mark : Mark) (path : Path) (reads : Reads α) : Reads α := fun aliases =>
  match reads aliases with
  | .error (.mismatch what none) => .error (.mismatch what (some (mark, path)))
  | result => result

/-- A location does not change what is read. -/
theorem located_ok {α : Type} {mark : Mark} {path : Path} {reads : Reads α} {n m : Nat} {x : α}
    (h : reads n = .ok (x, m)) : located mark path reads n = .ok (x, m) := by
  simp [located, h]

/-- Follows an alias. -/
def follow (ctx : Context) (number : Nat) : Reads Node := do
  match ← get with
  | 0 => throw .tooManyAliases
  | aliases + 1 =>
    set aliases
    match ctx.root.find? number with
    | some node => pure node
    | none => throw .noValue

/-- Reads a node, or the one that it is an alias of, with errors placed at it. -/
def atNode {α : Type} (read : NodeReader α) : NodeReader α := fun ctx node =>
  match node with
  | .alias mark number =>
    located mark ctx.path do
      let target ← follow ctx number
      located target.mark ctx.path (read ctx target)
  | node => located node.mark ctx.path (read ctx node)

/-- The node is of another type than expected. -/
def mistyped {α : Type} (expected : String) : Node → Reads α
  | .scalar p style text =>
    match resolveScalar p.tag (style = .plain) text with
    | .ok found => mismatched (.wrongType found expected)
    | .error what => mismatched what
  | .sequence _ _ => mismatched (.wrongType .sequence expected)
  | .mapping _ _ => mismatched (.wrongType .map expected)
  | .cut e => throw (.brokenText e)
  | .alias _ _ | .absent _ => throw .noValue

/-- Reads the text of a scalar, whatever it stands for. -/
def readTextAs (expected : String) : NodeReader String :=
  atNode fun _ node =>
    match node with
    | .scalar _ _ text => pure text
    | node => mistyped expected node

/-- Reads the text of a scalar. -/
def readText : NodeReader String := readTextAs "a string"

/-- The scalar may be read by its looks: it is plain, or a literal block with the given tag. -/
def isBare (tag : String) (p : Properties) (style : Style) : Bool :=
  style = .plain || (style = .literal && p.tag = some tag)

/-- Reads a whole number of 64 bits. -/
def readUInt64 : NodeReader UInt64 :=
  atNode fun _ node =>
    match node with
    | .scalar p style text =>
      match (if isBare wholeTag p style then positive? text.toList else none) with
      | some n => if n < 0x10000000000000000 then pure (UInt64.ofNat n) else mistyped "u64" node
      | none => mistyped "u64" node
    | node => mistyped "u64" node

/-- Reads a truth value. -/
def readBool : NodeReader Bool :=
  atNode fun _ node =>
    match node with
    | .scalar p style text =>
      match (if isBare boolTag p style then bool? text else none) with
      | some b => pure b
      | none => mistyped "a boolean" node
    | node => mistyped "a boolean" node

/-- The node holds a value, and is not an empty or null scalar. -/
def holdsValue : Node → Reads Bool
  | .scalar p style text =>
    if style ≠ .plain then pure true
    else
      match p.tag with
      | some tag =>
        if tag = nullTag then
          if isNull text then pure false else mismatched (.wrongValue (.text text) "null")
        else pure true
      | none => pure (!(text.isEmpty || isNull text))
  | .cut e => throw (.brokenText e)
  | .absent _ => pure false
  | _ => pure true

/-- Reads a node that holds no value as nothing and any other with the given reader. -/
def readOptional {α : Type} (read : NodeReader α) : NodeReader (Option α) := fun ctx node => do
  let node ← match node with
    | .alias _ number => follow ctx number
    | node => pure node
  if ← holdsValue node then some <$> read ctx node else pure none

/-- The node is an empty plain scalar or absent, and so can stand for a collection without parts. -/
def isEmptyNode : Node → Bool
  | .scalar _ style text => style = .plain && text.isEmpty
  | .absent _ => true
  | _ => false

/-- The context of the parts of a node, one level deeper. -/
def Context.deeper (ctx : Context) (mark : Mark) : Reads Context :=
  match ctx.depth with
  | 0 => throw (.tooDeep mark)
  | depth + 1 => pure { ctx with depth := depth }

/-- The context of the value behind a key. -/
def Context.behind (ctx : Context) (key : Node) : Context :=
  match key with
  | .scalar _ _ name => { ctx with path := .field ctx.path name }
  | _ => { ctx with path := .unnamed ctx.path }

/-- The context of an item. -/
def Context.item (ctx : Context) (index : Nat) : Context :=
  { ctx with path := .item ctx.path index }

/-- Reads a node whose value does not matter. -/
def ignore (node : Node) : Reads Unit :=
  match node.broken? with
  | some e => throw (.brokenText e)
  | none => pure ()

/-- A key or an item is there, unless the text breaks off in its place. -/
def present (node : Node) : Reads Unit :=
  match node with
  | .cut e => throw (.brokenText e)
  | _ => pure ()

/-- Reads the items from a position on. -/
def readItems {α : Type} (read : NodeReader α) (ctx : Context) : Nat → List Node → Reads (List α)
  | _, [] => pure []
  | position, node :: rest => do
    present node
    let x ← read (ctx.item position) node
    let xs ← readItems read ctx (position + 1) rest
    pure (x :: xs)

/-- Reads a list. -/
def readList {α : Type} (read : NodeReader α) : NodeReader (List α) :=
  atNode fun ctx node =>
    match node with
    | .sequence p items => do
      let ctx ← ctx.deeper p.mark
      readItems read ctx 0 items
    | node => if isEmptyNode node then pure [] else mistyped "a sequence" node

/-- The entries with one more, sorted by name; it replaces an entry of the same name. -/
def insertEntry {α : Type} (name : String) (x : α) : List (String × α) → List (String × α)
  | [] => [(name, x)]
  | (n, y) :: rest =>
    if name < n then (name, x) :: (n, y) :: rest
    else if name = n then (name, x) :: rest
    else (n, y) :: insertEntry name x rest

/-- Reads the entries of a dictionary into the ones before them. -/
def readEntries {α : Type} (read : NodeReader α) (ctx : Context) :
    List (String × α) → List (Node × Node) → Reads (List (String × α))
  | found, [] => pure found
  | found, (key, value) :: rest => do
    present key
    let name ← readText ctx key
    let x ← read (ctx.behind key) value
    readEntries read ctx (insertEntry name x found) rest

/-- Reads a dictionary, sorted by name; of several entries with one name the last one counts. -/
def readDictionary {α : Type} (read : NodeReader α) : NodeReader (List (String × α)) :=
  atNode fun ctx node =>
    match node with
    | .mapping p entries => do
      let ctx ← ctx.deeper p.mark
      readEntries read ctx [] entries
    | node => if isEmptyNode node then pure [] else mistyped "a map" node

/-! ## Records -/

/-- A known entry of a record: its name, whether it must be there, and how it changes the record. -/
structure Entry (ρ : Type) where
  name : String
  required : Bool
  read : NodeReader (ρ → ρ)

/-- An entry that may be missing. -/
def Entry.optional {ρ α : Type} (name : String) (read : NodeReader α) (set : α → ρ → ρ) : Entry ρ :=
  ⟨name, false, fun ctx node => set <$> read ctx node⟩

/-- An entry that must be there. -/
def Entry.mandatory {ρ α : Type} (name : String) (read : NodeReader α) (set : α → ρ → ρ) :
    Entry ρ :=
  ⟨name, true, fun ctx node => set <$> read ctx node⟩

/-- Reads the entries of a record in order; `seen` holds the names of those already set. -/
def readRecordEntries {ρ : Type} (known : List (Entry ρ)) (ctx : Context) :
    List String → ρ → List (Node × Node) → Reads (List String × ρ)
  | seen, r, [] => pure (seen, r)
  | seen, r, (key, value) :: rest => do
    present key
    let name ← readTextAs "field identifier" ctx key
    match known.find? (·.name = name) with
    | none =>
      ignore value
      readRecordEntries known ctx seen r rest
    | some entry =>
      if seen.contains name then mismatched (.duplicateField name)
      let change ← entry.read (ctx.behind key) value
      readRecordEntries known ctx (name :: seen) (change r) rest

/-- Reads a record from a mapping, starting from the record without any entries. -/
def readRecord {ρ : Type} (kind : String) (known : List (Entry ρ)) (initial : ρ) : NodeReader ρ :=
  atNode fun ctx node => do
    let (seen, r) ← match node with
      | .mapping p entries => do
        let ctx ← ctx.deeper p.mark
        readRecordEntries known ctx [] initial entries
      | node => if isEmptyNode node then pure ([], initial) else mistyped ("struct " ++ kind) node
    match known.find? fun entry => entry.required && !seen.contains entry.name with
    | some entry => mismatched (.missingField entry.name)
    | none => pure r

/-! ## Values of any shape -/

/-- The document that a scalar stands for. -/
def jsonOfScalar : Found → Except Mismatch Json
  | .bool b => .ok (.bool b)
  | .whole n => .ok (.ofInt n)
  | .hugeWhole _ => .error .numberOutOfRange
  | .real x => .ok (.ofReal x)
  | .text s => .ok (.str s)
  | _ => .ok .null

/-- The words for a value of any shape. -/
def anyJson : String := "any valid JSON value"

/-- Reads the entries of an object into the ones before them. -/
def readMembers (read : NodeReader Json) (ctx : Context) :
    String → List (String × Json) → List (Node × Node) → Reads (List (String × Json))
  | _, found, [] => pure found
  | expected, found, (key, value) :: rest => do
    present key
    let name ← readTextAs expected ctx key
    let v ← read (ctx.behind key) value
    readMembers read ctx "a string" (Json.insertField name v found) rest

/-- Reads a value of any shape, its parts with the given reader unless it nests too deep. -/
def readJsonNode (readPart : Option (NodeReader Json)) : NodeReader Json :=
  atNode fun ctx node =>
    match node with
    | .scalar p style text =>
      if (localTag? p.tag).isSome then mismatched (.wrongType .enumeration anyJson)
      else
        match resolveScalar p.tag (style = .plain) text with
        | .error what => mismatched what
        | .ok found =>
          match jsonOfScalar found with
          | .ok v => pure v
          | .error what => mismatched what
    | .sequence p items =>
      if (localTag? p.tag).isSome then mismatched (.wrongType .enumeration anyJson)
      else
        match readPart with
        | none => throw (.tooDeep p.mark)
        | some read => .arr <$> readItems read ctx 0 items
    | .mapping p entries =>
      if (localTag? p.tag).isSome then mismatched (.wrongType .enumeration anyJson)
      else
        match readPart with
        | none => throw (.tooDeep p.mark)
        | some read => .obj <$> readMembers read ctx "a string key" [] entries
    | .cut e => throw (.brokenText e)
    | .alias _ _ | .absent _ => pure .null

/-- Reads a value of any shape whose parts nest at most `levels` deep. -/
def readJsonWithin : Nat → NodeReader Json
  | 0 => readJsonNode none
  | levels + 1 => readJsonNode (some (readJsonWithin levels))

/-- Reads a value of any shape. -/
def readJson : NodeReader Json := fun ctx node => readJsonWithin ctx.depth ctx node

/-- The value that a scalar is kept as. -/
def bufferedScalar (expected : String) : Found → Except Mismatch Buffered
  | .bool b => .ok (.bool b)
  | .whole n => .ok (.whole n)
  | .hugeWhole n => .error (.wrongType (.hugeWhole n) expected)
  | .real x => .ok (.real x)
  | .text s => .ok (.text s)
  | _ => .ok .empty

/-- Reads pairs of values. -/
def readPairs (readKey readValue : NodeReader Buffered) (ctx : Context) :
    List (Node × Node) → Reads (List (Buffered × Buffered))
  | [] => pure []
  | (key, value) :: rest => do
    present key
    let k ← readKey ctx key
    let v ← readValue (ctx.behind key) value
    let others ← readPairs readKey readValue ctx rest
    pure ((k, v) :: others)

/-- Reads a value of any shape for later, its parts with the given reader unless it nests too deep;
`expected` is what the value is called. -/
def readBufferedNode (readPart : Option (NodeReader Buffered)) (expected : String) :
    NodeReader Buffered :=
  atNode fun ctx node =>
    match node with
    | .scalar p style text =>
      if (localTag? p.tag).isSome then mismatched .taggedValue
      else
        match resolveScalar p.tag (style = .plain) text with
        | .error what => mismatched what
        | .ok found =>
          match bufferedScalar expected found with
          | .ok v => pure v
          | .error what => mismatched what
    | .sequence p items =>
      if (localTag? p.tag).isSome then mismatched .taggedValue
      else
        match readPart with
        | none => throw (.tooDeep p.mark)
        | some read => .list <$> readItems read ctx 0 items
    | .mapping p entries =>
      if (localTag? p.tag).isSome then mismatched .taggedValue
      else
        match readPart with
        | none => throw (.tooDeep p.mark)
        | some read => .map <$> readPairs read read ctx entries
    | .cut e => throw (.brokenText e)
    | .alias _ _ | .absent _ => pure .empty

/-- Reads a value of any shape for later whose parts nest at most `levels` deep. -/
def readBufferedWithin : Nat → String → NodeReader Buffered
  | 0, expected => readBufferedNode none expected
  | levels + 1, expected => readBufferedNode (some (readBufferedWithin levels "any value")) expected

/-! ## Whole documents -/

/-- How deep nodes may nest. -/
def maxDepth : Nat := 128

/-- Reads a text that holds one document. -/
def readDocument {α : Type} (read : NodeReader α) (text : String) : Except ReadError α :=
  let document := Document.parse text
  let ctx : Context := ⟨document.root, .root, maxDepth⟩
  match (read ctx document.root).run (100 * document.root.size) with
  | .error e => .error e
  | .ok (x, _) =>
    match document.ending with
    | .finished => .ok x
    | .followed => .error .severalDocuments
    | .broken e => .error (.brokenText e)

end Lookout.Yaml
