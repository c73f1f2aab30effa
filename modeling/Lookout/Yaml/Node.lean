import Lookout.Yaml.TokenStream

/-!
# Nodes

What a text denotes: scalars, sequences, mappings, and aliases of nodes named before. A text that is no
document still denotes nodes up to the place where it breaks off, and a node in that place carries the
error; so whoever reads the nodes in order meets the error only after what stands before it.

* **`emptyAt_mark`** — an empty node stands where it is put.
-/

namespace Lookout.Yaml

/-- Where a node starts, the tag it carries and the number of its anchor. -/
structure Properties where
  mark : Mark
  tag : Option String
  anchor : Option Nat
deriving Inhabited

/-- A node of a document. -/
inductive Node
  | scalar (properties : Properties) (style : Style) (text : String)
  | alias (mark : Mark) (anchor : Nat)
  | sequence (properties : Properties) (items : List Node)
  | mapping (properties : Properties) (entries : List (Node × Node))
  | absent (mark : Mark)
  | cut (error : SyntaxError)
deriving Inhabited

namespace Node

/-- An empty scalar. -/
def emptyAt (mark : Mark) : Node := .scalar ⟨mark, none, none⟩ .plain ""

/-- Where a node starts. -/
def mark : Node → Mark
  | .scalar p _ _ | .sequence p _ | .mapping p _ => p.mark
  | .alias mark _ | .absent mark => mark
  | .cut error => error.place

/-- An empty node stands where it is put. -/
theorem emptyAt_mark (m : Mark) : (emptyAt m).mark = m := rfl

end Node

/-- A place among the tokens of a text, with the names of the anchors so far, each once with its latest
number. -/
structure TokenPlace where
  tokens : List Token
  anchors : List (String × Nat)

namespace TokenPlace

/-- The error of a text that ends without its last token. -/
def unended : SyntaxError := ⟨.nodeContent, .start, none⟩

/-- The next token; a text that breaks off here has none. -/
def peek (s : TokenPlace) : Except SyntaxError Token :=
  match s.tokens with
  | [] => .error unended
  | ⟨.broken e, _⟩ :: _ => .error e
  | t :: _ => .ok t

/-- The place behind the next token. -/
def next (s : TokenPlace) : TokenPlace := { s with tokens := s.tokens.tail }

/-- Gives the name of an anchor the next free number. -/
def nameAnchor (s : TokenPlace) : Option String → Option Nat × TokenPlace
  | none => (none, s)
  | some name =>
    let number := s.anchors.length
    let others := s.anchors.filter (·.1 ≠ name)
    (some number, { s with anchors := (name, number) :: others })

/-- The number of a named anchor. -/
def anchor? (s : TokenPlace) (name : String) : Option Nat :=
  (s.anchors.find? (·.1 = name)).map (·.2)

end TokenPlace

/-- What the handles of tags stand for. -/
abbrev TagHandles := List (String × String)

/-- The handles that are known without a directive. -/
def standardHandles : TagHandles := [("!", "!"), ("!!", "tag:yaml.org,2002:")]

/-- A fault at a token in a larger part that started at `start`. -/
def unexpected (activity : Activity) (start : Mark) (fault : Fault) (t : Token) : SyntaxError :=
  ⟨fault, t.mark, some (activity, start)⟩

/-- The full tag of a handle and a suffix. -/
def resolveTag (handles : TagHandles) (start : Mark) (t : Token) (handle suffix : String) :
    Except SyntaxError String :=
  if handle = "" then .ok suffix
  else
    match handles.find? (·.1 = handle) with
    | some (_, text) => .ok (text ++ suffix)
    | none => .error (unexpected .node start .undefinedTagHandle t)

/-- The anchor and the tag in front of a node, in either order, and the token behind them. -/
def readProperties (handles : TagHandles) (s : TokenPlace) :
    Except SyntaxError (Option String × Option String × Token × TokenPlace) := do
  let first ← s.peek
  match first.kind with
  | .anchor name =>
    let second ← s.next.peek
    match second.kind with
    | .tag handle suffix =>
      let third ← s.next.next.peek
      let tag ← resolveTag handles first.mark second handle suffix
      pure (some name, some tag, third, s.next.next)
    | _ => pure (some name, none, second, s.next)
  | .tag handle suffix =>
    let second ← s.next.peek
    match second.kind with
    | .anchor name =>
      let third ← s.next.next.peek
      let tag ← resolveTag handles first.mark first handle suffix
      pure (some name, some tag, third, s.next.next)
    | _ =>
      let tag ← resolveTag handles first.mark first handle suffix
      pure (none, some tag, second, s.next)
  | _ => pure (none, none, first, s)

/-- What has been read, with the place behind it or the error at which the text broke off. -/
abbrev Reading (α : Type) := α × Except SyntaxError TokenPlace

/-- The text breaks off in place of a node. -/
def brokenNode (e : SyntaxError) : Reading Node := (.cut e, .error e)

/-- The text breaks off in place of an item. -/
def brokenItems (e : SyntaxError) : Reading (List Node) := ([.cut e], .error e)

/-- The text breaks off in place of an entry. -/
def brokenEntries (e : SyntaxError) : Reading (List (Node × Node)) := ([(.cut e, .cut e)], .error e)

/-- The token ends a key or a value of a block mapping that is left empty. -/
def endsBlockPart : TokenKind → Bool
  | .key | .value | .blockEnd => true
  | _ => false

/-- The token ends a part of a mapping in braces that is left empty. -/
def endsFlowPart : TokenKind → Bool
  | .value | .flowEntry | .flowMappingEnd => true
  | _ => false

/-- The token ends a part of a single pair in brackets that is left empty. -/
def endsPairPart : TokenKind → Bool
  | .value | .flowEntry | .flowSequenceEnd => true
  | _ => false

mutual

/-- Reads a node. In a block it may be a block itself, and in a mapping the dashes of a sequence need
no indentation. -/
def readNode (handles : TagHandles) :
    Nat → (inBlock inMapping : Bool) → TokenPlace → Reading Node
  | 0, _, _, _ => brokenNode TokenPlace.unended
  | fuel + 1, inBlock, inMapping, s =>
    match s.peek with
    | .error e => brokenNode e
    | .ok first =>
      match first.kind with
      | .alias name =>
        match s.anchor? name with
        | some number => (.alias first.mark number, .ok s.next)
        | none => brokenNode ⟨.unknownAnchor, first.mark, none⟩
      | _ =>
        match readProperties handles s with
        | .error e => brokenNode e
        | .ok (name, tag, t, s) =>
          let (anchor, s) := s.nameAnchor name
          let p : Properties := ⟨first.mark, tag, anchor⟩
          match inBlock, inMapping, t.kind with
          | _, true, .blockEntry =>
            let (items, rest) := readLooseItems handles fuel s
            (.sequence p items, rest)
          | _, _, .scalar style text =>
            (.scalar { p with tag := if tag = some "!" then none else tag } style text, .ok s.next)
          | _, _, .flowSequenceStart =>
            let (items, rest) := readFlowItems handles fuel true t.mark s.next
            (.sequence p items, rest)
          | _, _, .flowMappingStart =>
            let (entries, rest) := readFlowEntries handles fuel true t.mark s.next
            (.mapping p entries, rest)
          | true, _, .blockSequenceStart =>
            let (items, rest) := readBlockItems handles fuel t.mark s.next
            (.sequence p items, rest)
          | true, _, .blockMappingStart =>
            let (entries, rest) := readBlockEntries handles fuel t.mark s.next
            (.mapping p entries, rest)
          | _, _, _ =>
            if name.isSome || tag.isSome then (.scalar p .plain "", .ok s)
            else
              brokenNode (unexpected (if inBlock then .blockNode else .flowNode) first.mark
                .nodeContent t)

/-- Reads the items of an indented sequence. -/
def readBlockItems (handles : TagHandles) : Nat → Mark → TokenPlace → Reading (List Node)
  | 0, _, _ => brokenItems TokenPlace.unended
  | fuel + 1, start, s =>
    match s.peek with
    | .error e => brokenItems e
    | .ok t =>
      match t.kind with
      | .blockEntry =>
        match s.next.peek with
        | .error e => brokenItems e
        | .ok follower =>
          let (item, rest) :=
            if follower.kind = .blockEntry || follower.kind = .blockEnd then
              (.emptyAt t.behind, .ok s.next)
            else readNode handles fuel true false s.next
          match rest with
          | .error e => ([item], .error e)
          | .ok s =>
            let (items, rest) := readBlockItems handles fuel start s
            (item :: items, rest)
      | .blockEnd => ([], .ok s.next)
      | _ => brokenItems (unexpected .blockSequence start .sequenceEntry t)

/-- Reads the items of a sequence that is no further in than the mapping around it. -/
def readLooseItems (handles : TagHandles) : Nat → TokenPlace → Reading (List Node)
  | 0, _ => brokenItems TokenPlace.unended
  | fuel + 1, s =>
    match s.peek with
    | .error e => brokenItems e
    | .ok t =>
      match t.kind with
      | .blockEntry =>
        match s.next.peek with
        | .error e => brokenItems e
        | .ok follower =>
          let (item, rest) :=
            if follower.kind = .blockEntry || endsBlockPart follower.kind then
              (.emptyAt t.behind, .ok s.next)
            else readNode handles fuel true false s.next
          match rest with
          | .error e => ([item], .error e)
          | .ok s =>
            let (items, rest) := readLooseItems handles fuel s
            (item :: items, rest)
      | _ => ([], .ok s)

/-- Reads a key or a value of a block mapping behind its indicator `t`. -/
def readBlockPart (handles : TagHandles) : Nat → Token → TokenPlace → Reading Node
  | 0, _, _ => brokenNode TokenPlace.unended
  | fuel + 1, t, s =>
    match s.peek with
    | .error e => brokenNode e
    | .ok follower =>
      if endsBlockPart follower.kind then (.emptyAt t.behind, .ok s)
      else readNode handles fuel true true s

/-- Reads the entries of a block mapping. -/
def readBlockEntries (handles : TagHandles) :
    Nat → Mark → TokenPlace → Reading (List (Node × Node))
  | 0, _, _ => brokenEntries TokenPlace.unended
  | fuel + 1, start, s =>
    match s.peek with
    | .error e => brokenEntries e
    | .ok t =>
      match t.kind with
      | .key =>
        let (key, rest) := readBlockPart handles fuel t s.next
        match rest with
        | .error e => ([(key, .cut e)], .error e)
        | .ok s =>
          match s.peek with
          | .error e => ([(key, .cut e)], .error e)
          | .ok t =>
            let (value, rest) :=
              if t.kind = .value then readBlockPart handles fuel t s.next
              else (.emptyAt t.mark, .ok s)
            match rest with
            | .error e => ([(key, value)], .error e)
            | .ok s =>
              let (entries, rest) := readBlockEntries handles fuel start s
              ((key, value) :: entries, rest)
      | .blockEnd => ([], .ok s.next)
      | _ => brokenEntries (unexpected .blockMapping start .mappingKey t)

/-- Reads a single pair in brackets, behind the indicator of its key. -/
def readPair (handles : TagHandles) : Nat → TokenPlace → Reading (List (Node × Node))
  | 0, _ => brokenEntries TokenPlace.unended
  | fuel + 1, s =>
    match s.peek with
    | .error e => brokenEntries e
    | .ok t =>
      let (key, rest) :=
        if endsPairPart t.kind then (.emptyAt t.behind, .ok s.next)
        else readNode handles fuel false false s
      match rest with
      | .error e => ([(key, .cut e)], .error e)
      | .ok s =>
        let (value, rest) := readPairValue handles fuel s
        match rest with
        | .error e => ([(key, value)], .error e)
        | .ok s =>
          match s.peek with
          | .error e => ([(key, value), (.cut e, .cut e)], .error e)
          | .ok _ => ([(key, value)], .ok s)

/-- Reads the value of a single pair in brackets. -/
def readPairValue (handles : TagHandles) : Nat → TokenPlace → Reading Node
  | 0, _ => brokenNode TokenPlace.unended
  | fuel + 1, s =>
    match s.peek with
    | .error e => brokenNode e
    | .ok t =>
      if t.kind = .value then
        match s.next.peek with
        | .error e => brokenNode e
        | .ok follower =>
          if follower.kind = .flowEntry || follower.kind = .flowSequenceEnd then
            (.emptyAt follower.mark, .ok s.next)
          else readNode handles fuel false false s.next
      else (.emptyAt t.mark, .ok s)

/-- Reads the items of a sequence in brackets. -/
def readFlowItems (handles : TagHandles) : Nat → Bool → Mark → TokenPlace → Reading (List Node)
  | 0, _, _, _ => brokenItems TokenPlace.unended
  | fuel + 1, first, start, s =>
    match s.peek with
    | .error e => brokenItems e
    | .ok t =>
      if t.kind = .flowSequenceEnd then ([], .ok s.next)
      else if !first && t.kind ≠ .flowEntry then
        brokenItems (unexpected .flowSequence start .flowSequenceEnd t)
      else
        let s := if first then s else s.next
        match s.peek with
        | .error e => brokenItems e
        | .ok t =>
          if t.kind = .flowSequenceEnd then ([], .ok s.next)
          else
            let (item, rest) :=
              if t.kind = .key then
                let (entries, rest) := readPair handles fuel s.next
                (.mapping ⟨t.mark, none, none⟩ entries, rest)
              else readNode handles fuel false false s
            match rest with
            | .error e => ([item], .error e)
            | .ok s =>
              let (items, rest) := readFlowItems handles fuel false start s
              (item :: items, rest)

/-- Reads the value of an entry in braces. -/
def readFlowValue (handles : TagHandles) : Nat → TokenPlace → Reading Node
  | 0, _ => brokenNode TokenPlace.unended
  | fuel + 1, s =>
    match s.peek with
    | .error e => brokenNode e
    | .ok t =>
      if t.kind = .value then
        match s.next.peek with
        | .error e => brokenNode e
        | .ok follower =>
          if follower.kind = .flowEntry || follower.kind = .flowMappingEnd then
            (.emptyAt follower.mark, .ok s.next)
          else readNode handles fuel false false s.next
      else (.emptyAt t.mark, .ok s)

/-- Reads an entry in braces; without the indicator of a key it has no value. -/
def readFlowEntry (handles : TagHandles) : Nat → Token → TokenPlace → Reading (Node × Node)
  | 0, _, _ => ((.cut TokenPlace.unended, .cut TokenPlace.unended), .error TokenPlace.unended)
  | fuel + 1, t, s =>
    if t.kind = .key then
      match s.next.peek with
      | .error e => ((.cut e, .cut e), .error e)
      | .ok follower =>
        let (key, rest) :=
          if endsFlowPart follower.kind then (.emptyAt follower.mark, .ok s.next)
          else readNode handles fuel false false s.next
        match rest with
        | .error e => ((key, .cut e), .error e)
        | .ok s =>
          let (value, rest) := readFlowValue handles fuel s
          ((key, value), rest)
    else
      let (key, rest) := readNode handles fuel false false s
      match rest with
      | .error e => ((key, .cut e), .error e)
      | .ok s =>
        match s.peek with
        | .error e => ((key, .cut e), .error e)
        | .ok t => ((key, .emptyAt t.mark), .ok s)

/-- Reads the entries of a mapping in braces. -/
def readFlowEntries (handles : TagHandles) :
    Nat → Bool → Mark → TokenPlace → Reading (List (Node × Node))
  | 0, _, _, _ => brokenEntries TokenPlace.unended
  | fuel + 1, first, start, s =>
    match s.peek with
    | .error e => brokenEntries e
    | .ok t =>
      if t.kind = .flowMappingEnd then ([], .ok s.next)
      else if !first && t.kind ≠ .flowEntry then
        brokenEntries (unexpected .flowMapping start .flowMappingEnd t)
      else
        let s := if first then s else s.next
        match s.peek with
        | .error e => brokenEntries e
        | .ok t =>
          if t.kind = .flowMappingEnd then ([], .ok s.next)
          else
            let (entry, rest) := readFlowEntry handles fuel t s
            match rest with
            | .error e => ([entry], .error e)
            | .ok s =>
              let (entries, rest) := readFlowEntries handles fuel false start s
              (entry :: entries, rest)

end

end Lookout.Yaml
