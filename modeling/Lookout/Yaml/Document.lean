import Lookout.Yaml.Node

/-!
# Documents

The first document of a text with what comes after it. Only a text with exactly one document, or with
none at all, is well formed; a text with none denotes an absent node.
-/

namespace Lookout.Yaml

/-- What comes after the first document of a text: nothing, something else, or an error before its
end. -/
inductive Ending
  | finished
  | followed
  | broken (error : SyntaxError)
deriving DecidableEq

/-- The first document of a text. -/
structure Document where
  root : Node
  ending : Ending

/-- The tags that the directives of a document define, and the place behind them. The flag says that a
version has been given. -/
def readDirectives : Nat → Bool → TagHandles → TokenPlace →
    Except SyntaxError (TagHandles × TokenPlace)
  | 0, _, handles, s => .ok (handles, s)
  | fuel + 1, versioned, handles, s => do
    let t ← s.peek
    match t.kind with
    | .versionDirective major minor =>
      if versioned then .error ⟨.duplicateVersion, t.mark, none⟩
      else if major ≠ 1 || (minor ≠ 1 && minor ≠ 2) then .error ⟨.incompatibleVersion, t.mark, none⟩
      else readDirectives fuel true handles s.next
    | .tagDirective handle text =>
      if handles.any (·.1 = handle) then .error ⟨.duplicateTag, t.mark, none⟩
      else readDirectives fuel versioned (handles ++ [(handle, text)]) s.next
    | _ => pure (handles, s)

/-- Over the indicators that end a document. -/
def skipDocumentEnds : List Token → List Token
  | [] => []
  | t :: rest => if t.kind = .documentEnd then skipDocumentEnds rest else t :: rest

/-- What comes after the root of a document. -/
def endingAt (s : TokenPlace) : Ending :=
  match s.peek with
  | .error e => .broken e
  | .ok _ =>
    match skipDocumentEnds s.tokens with
    | ⟨.streamEnd, _⟩ :: _ => .finished
    | _ => .followed

/-- A document with what follows its root. -/
def Document.ofReading (reading : Reading Node) : Document :=
  match reading.2 with
  | .error e => ⟨reading.1, .broken e⟩
  | .ok s => ⟨reading.1, endingAt s⟩

/-- The token can stand only before or behind the content of a document. -/
def isOutsideContent : TokenKind → Bool
  | .versionDirective _ _ | .tagDirective _ _ | .documentStart | .documentEnd | .streamEnd => true
  | _ => false

/-- Reads a document that starts with directives or an indicator. -/
def readExplicit (fuel : Nat) (s : TokenPlace) : Reading Node :=
  match readDirectives fuel false [] s with
  | .error e => brokenNode e
  | .ok (handles, s) =>
    match s.peek with
    | .error e => brokenNode e
    | .ok t =>
      if t.kind ≠ .documentStart then brokenNode ⟨.documentStart, t.mark, none⟩
      else
        match s.next.peek with
        | .error e => brokenNode e
        | .ok t =>
          if isOutsideContent t.kind then (.emptyAt t.mark, .ok s.next)
          else readNode (handles ++ standardHandles) fuel true false s.next

/-- The first document of a text. -/
def Document.parse (text : String) : Document :=
  let s : TokenPlace := ⟨tokens text, []⟩
  let fuel := 4 * s.tokens.length + 8
  match s.peek with
  | .error e => ⟨.cut e, .broken e⟩
  | .ok t =>
    match t.kind with
    | .streamEnd => ⟨.absent t.mark, .finished⟩
    | .versionDirective _ _ | .tagDirective _ _ | .documentStart =>
      .ofReading (readExplicit fuel s)
    | _ => .ofReading (readNode standardHandles fuel true false s)

/-- The text holds exactly one document or none. -/
def Document.isWellFormed (d : Document) : Bool := d.ending = .finished

end Lookout.Yaml
