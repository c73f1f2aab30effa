import Lookout.Yaml.Property

/-!
# Token streams

The tokens of a text, in order. Whether a scalar is the key of a mapping shows only at the colon behind
it, on the same line and at most 1024 characters on; so a token is released only when nothing can be
put in front of it any more. Indentation opens and closes blocks outside of brackets.

* **`release_count`** — releasing a token leaves one less in the queue.
-/

namespace Lookout.Yaml

/-- A place where the key of a mapping may have started: whether it still may, whether it must, how
many tokens came before it, and the place. -/
structure PendingKey where
  possible : Bool
  required : Bool
  number : Nat
  mark : Mark

/-- A place where no key has started. -/
def PendingKey.none : PendingKey := ⟨false, false, 0, .start⟩

/-- The state of reading tokens. There is one pending key for every open bracket and one outside of
all brackets, the innermost first. -/
structure TokenStream where
  cursor : Cursor
  queue : List Token
  released : Nat
  keys : List PendingKey
  indent : Int
  outerIndents : List Int
  keyAllowed : Bool

namespace TokenStream

/-- The start of a text. -/
def ofText (s : String) : TokenStream := ⟨.ofText s, [], 0, [.none], -1, [], true⟩

/-- The place that has been reached. -/
def mark (s : TokenStream) : Mark := s.cursor.mark

/-- Brackets are open. -/
def inFlow (s : TokenStream) : Bool := 1 < s.keys.length

/-- Releases the first token of the queue. -/
def release (s : TokenStream) : TokenStream :=
  { s with queue := s.queue.tail, released := s.released + 1 }

/-- Releasing a token leaves one less in the queue. -/
theorem release_count (s : TokenStream) : s.release.queue.length = s.queue.length - 1 := by
  simp [release]

/-- Puts a token at the end of the queue. -/
def push (s : TokenStream) (kind : TokenKind) (mark : Mark) : TokenStream :=
  { s with queue := s.queue ++ [⟨kind, mark⟩] }

/-- Puts a token behind the first `number` tokens of the text. -/
def insert (s : TokenStream) (number : Nat) (kind : TokenKind) (mark : Mark) : TokenStream :=
  let (before, behind) := s.queue.splitAt (number - s.released)
  { s with queue := before ++ ⟨kind, mark⟩ :: behind }

/-- A fault of no particular activity at the current place. -/
def fault {α : Type} (s : TokenStream) (what : Fault) : Except SyntaxError α :=
  .error ⟨what, s.mark, Option.none⟩

/-! ## Pending keys -/

/-- The key is given up, which is a fault if there must be one. -/
def PendingKey.drop (place : Mark) (key : PendingKey) : Except SyntaxError PendingKey :=
  if key.possible && key.required then
    .error ⟨.keyWithoutColon, place, some (.simpleKey, key.mark)⟩
  else .ok { key with possible := false }

/-- The key started in an earlier line or too far back. -/
def PendingKey.isStale (place : Mark) (key : PendingKey) : Bool :=
  key.possible && (key.mark.line < place.line || key.mark.index + 1024 < place.index)

/-- Gives up the keys that are too far back, outermost first. -/
def dropStaleKeys (s : TokenStream) : Except SyntaxError TokenStream := do
  let keys ← s.keys.reverse.mapM fun key =>
    if PendingKey.isStale s.mark key then PendingKey.drop s.mark key else pure key
  pure { s with keys := keys.reverse }

/-- Gives up the innermost pending key. -/
def dropKey (s : TokenStream) : Except SyntaxError TokenStream :=
  match s.keys with
  | [] => .ok s
  | key :: outer => do
    let key ← PendingKey.drop s.mark key
    pure { s with keys := key :: outer }

/-- A key may start here. -/
def saveKey (s : TokenStream) : Except SyntaxError TokenStream :=
  if !s.keyAllowed then .ok s
  else do
    let s ← s.dropKey
    let required := !s.inFlow && s.indent == (s.mark.column : Int)
    let key : PendingKey := ⟨true, required, s.released + s.queue.length, s.mark⟩
    pure { s with keys := key :: s.keys.tail }

/-! ## Indentation -/

/-- Opens a block whose lines start at a column, with a token put at the given number. -/
def openBlock (s : TokenStream) (column : Nat) (number : Nat) (kind : TokenKind) (mark : Mark) :
    TokenStream :=
  if s.inFlow || (column : Int) ≤ s.indent then s
  else
    let s := { s with outerIndents := s.indent :: s.outerIndents, indent := column }
    s.insert number kind mark

/-- Closes all blocks whose lines start right of a column, given the indentations outside. -/
def closeBlocksFrom (column : Int) : List Int → TokenStream → TokenStream
  | [], s => s
  | outer :: outers, s =>
    if column < s.indent then
      closeBlocksFrom column outers
        { s.push .blockEnd s.mark with indent := outer, outerIndents := outers }
    else s

/-- Closes all blocks whose lines start right of a column. -/
def closeBlocks (s : TokenStream) (column : Int) : TokenStream :=
  if s.inFlow then s else closeBlocksFrom column s.outerIndents s

/-! ## One token -/

/-- Over blanks, comments and line ends. Outside of brackets a new line may start with a key, and a
tab is no blank where a key may start. -/
def skipToToken : Nat → TokenStream → TokenStream
  | 0, s => s
  | fuel + 1, s =>
    let c := s.cursor
    let c := if c.mark.index = 0 && c.sees '\ufeff' 0 then c.skip else c
    let c := (c.skipWhile fun d => d == ' ' || ((s.inFlow || !s.keyAllowed) && d == '\t')).skipComment
    if c.atBreak then
      skipToToken fuel { s with cursor := c.skipLine, keyAllowed := s.keyAllowed || !s.inFlow }
    else { s with cursor := c }

/-- A token of `n` characters at the current place. -/
def take (s : TokenStream) (n : Nat) (kind : TokenKind) : TokenStream :=
  { s.push kind s.mark with cursor := s.cursor.skipMany n }

/-- Reads the end of the text. -/
def readEnd (s : TokenStream) : Except SyntaxError TokenStream := do
  let mark := s.mark
  let mark := if mark.column ≠ 0 then { mark with line := mark.line + 1, column := 0 } else mark
  let s := { s with cursor := { s.cursor with mark := mark } }
  let s ← (s.closeBlocks (-1)).dropKey
  pure ({ s with keyAllowed := false }.push .streamEnd s.mark)

/-- Reads a directive. -/
def readDirective (s : TokenStream) : Except SyntaxError TokenStream := do
  let s ← (s.closeBlocks (-1)).dropKey
  let (kind, c) ← Yaml.readDirective s.cursor
  pure { s.push kind s.mark with keyAllowed := false, cursor := c }

/-- Reads a document indicator. -/
def readDocumentIndicator (s : TokenStream) (kind : TokenKind) : Except SyntaxError TokenStream := do
  let s ← (s.closeBlocks (-1)).dropKey
  pure ({ s with keyAllowed := false }.take 3 kind)

/-- Reads an opening bracket. -/
def readOpening (s : TokenStream) (kind : TokenKind) : Except SyntaxError TokenStream := do
  let s ← s.saveKey
  pure ({ s with keys := .none :: s.keys, keyAllowed := true }.take 1 kind)

/-- Reads a closing bracket. -/
def readClosing (s : TokenStream) (kind : TokenKind) : Except SyntaxError TokenStream := do
  let s ← s.dropKey
  let keys := if s.inFlow then s.keys.tail else s.keys
  pure ({ s with keys := keys, keyAllowed := false }.take 1 kind)

/-- Reads a comma inside brackets. -/
def readFlowEntry (s : TokenStream) : Except SyntaxError TokenStream := do
  let s ← s.dropKey
  pure ({ s with keyAllowed := true }.take 1 .flowEntry)

/-- Opens a block at the current place for an indicator, which must be allowed here. -/
def openBlockHere (s : TokenStream) (kind : TokenKind) (otherwise : Fault) :
    Except SyntaxError TokenStream :=
  if s.inFlow then .ok s
  else if !s.keyAllowed then s.fault otherwise
  else .ok (s.openBlock s.mark.column (s.released + s.queue.length) kind s.mark)

/-- Reads the dash of an item. -/
def readBlockEntry (s : TokenStream) : Except SyntaxError TokenStream := do
  let s ← s.openBlockHere .blockSequenceStart .entryNotAllowed
  let s ← s.dropKey
  pure ({ s with keyAllowed := true }.take 1 .blockEntry)

/-- Reads the question mark of a key. -/
def readKey (s : TokenStream) : Except SyntaxError TokenStream := do
  let s ← s.openBlockHere .blockMappingStart .keyNotAllowed
  let s ← s.dropKey
  pure ({ s with keyAllowed := !s.inFlow }.take 1 .key)

/-- Reads the colon of a value. What started at the pending key turns out to be a key. -/
def readValue (s : TokenStream) : Except SyntaxError TokenStream :=
  match s.keys with
  | key :: outer =>
    if key.possible then
      let s := s.insert key.number .key key.mark
      let s := s.openBlock key.mark.column key.number .blockMappingStart key.mark
      .ok ({ s with keys := { key with possible := false } :: outer, keyAllowed := false }.take 1
        .value)
    else do
      let s ← s.openBlockHere .blockMappingStart .valueNotAllowed
      pure ({ s with keyAllowed := !s.inFlow }.take 1 .value)
  | [] => .ok s

/-- Reads an anchor or an alias. -/
def readAnchor (s : TokenStream) (activity : Activity) (kind : String → TokenKind) :
    Except SyntaxError TokenStream := do
  let s ← s.saveKey
  let (name, c) ← readName activity s.cursor
  pure { s.push (kind name) s.mark with keyAllowed := false, cursor := c }

/-- Reads a tag. -/
def readTag (s : TokenStream) : Except SyntaxError TokenStream := do
  let s ← s.saveKey
  let (handle, suffix, c) ← Yaml.readTag s.inFlow s.cursor
  pure { s.push (.tag handle suffix) s.mark with keyAllowed := false, cursor := c }

/-- Reads a block scalar. -/
def readBlockScalar (s : TokenStream) (style : Style) : Except SyntaxError TokenStream := do
  let s ← s.dropKey
  let scalar ← readBlock (style = .literal) s.indent s.cursor
  pure { s.push (.scalar style scalar.text) s.mark with keyAllowed := true, cursor := scalar.next }

/-- Reads a quoted scalar. -/
def readQuotedScalar (s : TokenStream) (quote : Char) : Except SyntaxError TokenStream := do
  let s ← s.saveKey
  let (text, c) ← readQuoted quote s.mark (s.cursor.rest.length + 1) [] s.cursor.skip
  pure { s.push (.scalar .quoted (String.ofList text)) s.mark with keyAllowed := false, cursor := c }

/-- Reads a plain scalar. A key may follow if a line ended behind it. -/
def readPlainScalar (s : TokenStream) : Except SyntaxError TokenStream := do
  let s ← s.saveKey
  let scalar ← readPlain s.inFlow (s.indent + 1).toNat s.mark (s.cursor.rest.length + 1) .none []
    s.cursor
  pure { s.push (.scalar .plain scalar.text) s.mark with
    keyAllowed := scalar.broken, cursor := scalar.next }

/-- The characters that start something other than a plain scalar. -/
def indicators : List Char := "-?:,[]\x7b\x7d#&*!|>'\"%@\x60".toList

/-- A plain scalar may start here. -/
def atPlain (s : TokenStream) : Bool :=
  match s.cursor.rest with
  | [] => false
  | d :: _ =>
    !(isBlank d || isBreak d || indicators.contains d) ||
      (d == '-' && !s.cursor.seesAny isBlank 1) ||
      (!s.inFlow && (d == '?' || d == ':') && !s.cursor.separated 1)

/-- Reads the next token of the text. -/
def fetch (s : TokenStream) : Except SyntaxError TokenStream := do
  let s ← (skipToToken (s.cursor.rest.length + 1) s).dropStaleKeys
  let s := s.closeBlocks s.mark.column
  let c := s.cursor
  match c.rest with
  | [] => s.readEnd
  | d :: _ =>
    if d == '%' && c.mark.column = 0 then s.readDirective
    else if c.atIndicator '-' then s.readDocumentIndicator .documentStart
    else if c.atIndicator '.' then s.readDocumentIndicator .documentEnd
    else if d == '[' then s.readOpening .flowSequenceStart
    else if d == '\x7b' then s.readOpening .flowMappingStart
    else if d == ']' then s.readClosing .flowSequenceEnd
    else if d == '\x7d' then s.readClosing .flowMappingEnd
    else if d == ',' then s.readFlowEntry
    else if d == '-' && c.separated 1 then s.readBlockEntry
    else if d == '?' && (s.inFlow || c.separated 1) then s.readKey
    else if d == ':' && (s.inFlow || c.separated 1) then s.readValue
    else if d == '*' then s.readAnchor .aliasName .alias
    else if d == '&' then s.readAnchor .anchor .anchor
    else if d == '!' then s.readTag
    else if d == '|' && !s.inFlow then s.readBlockScalar .literal
    else if d == '>' && !s.inFlow then s.readBlockScalar .folded
    else if d == '\'' || d == '"' then s.readQuotedScalar d
    else if s.atPlain then s.readPlainScalar
    else faultIn .nextToken s.mark c .noToken

/-! ## All tokens -/

/-- A token could still be put in front of the queue. -/
def isBlocked (s : TokenStream) : Bool :=
  s.queue.isEmpty || s.keys.any fun key => key.possible && key.number == s.released

/-- The tokens from here on. -/
def tokensFrom : Nat → TokenStream → List Token
  | 0, _ => []
  | fuel + 1, s =>
    match (if s.queue.isEmpty then .ok s else s.dropStaleKeys) with
    | .error e => [⟨.broken e, s.mark⟩]
    | .ok s =>
      if s.isBlocked then
        match s.fetch with
        | .error e => [⟨.broken e, s.mark⟩]
        | .ok s => tokensFrom fuel s
      else
        match s.queue with
        | [] => []
        | t :: _ => if t.kind = .streamEnd then [t] else t :: tokensFrom fuel s.release

end TokenStream

/-- A character that a text may hold. -/
def isAllowed (c : Char) : Bool :=
  let n := c.toNat
  n = 9 || n = 10 || n = 13 || (0x20 ≤ n && n ≤ 0x7e) || n = 0x85 || (0xa0 ≤ n && n ≤ 0xd7ff) ||
    (0xe000 ≤ n && n ≤ 0xfffd) || 0x10000 ≤ n

/-- How many bytes stand before the first character that a text may not hold. -/
def forbiddenAt? (offset : Nat) : List Char → Option Nat
  | [] => none
  | c :: rest => if isAllowed c then forbiddenAt? (offset + c.utf8Size) rest else some offset

/-- The tokens of a text. -/
def tokens (s : String) : List Token :=
  match forbiddenAt? 0 s.toList with
  | some offset => [⟨.broken ⟨.controlCharacter, ⟨offset, 0, 0⟩, none⟩, .start⟩]
  | none => TokenStream.tokensFrom (8 * s.length + 16) (TokenStream.ofText s)

end Lookout.Yaml
