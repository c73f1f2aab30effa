import Lookout.Yaml.ScalarText
import Lookout.Yaml.Token

/-!
# Properties and directives

Anchors, aliases and tags of nodes, and the directives before a document.
-/

namespace Lookout.Yaml

/-! ## Anchors -/

/-- The characters that may follow the name of an anchor besides blanks. -/
def endsName (c : Char) : Bool :=
  isBlank c || isBreak c || c == '?' || c == ':' || c == ',' || c == ']' || c == '\x7d' ||
    c == '%' || c == '@' || c == '\x60'

/-- Reads the name behind the sign of an anchor or an alias. -/
def readName (activity : Activity) (c : Cursor) : Except SyntaxError (String × Cursor) :=
  let behind := c.skip.skipWhile isWord
  let name := c.skip.rest.takeWhile isWord
  if name.isEmpty || !(behind.atEnd || behind.seesAny endsName 0) then
    faultIn activity c.mark behind .anchorName
  else .ok (String.ofList name, behind)

/-! ## Tags -/

/-- A character that may stand in the text of a tag. -/
def isTagChar (verbatim : Bool) (c : Char) : Bool :=
  isWord c || ";/?:@&=+$.%!~*'()".toList.contains c ||
    (verbatim && (c == ',' || c == '[' || c == ']'))

/-- How many bytes the character takes that starts with a byte. -/
def byteCount? (byte : Nat) : Option Nat :=
  if byte < 0x80 then some 1
  else if 0xc0 ≤ byte && byte < 0xe0 then some 2
  else if 0xe0 ≤ byte && byte < 0xf0 then some 3
  else if 0xf0 ≤ byte && byte < 0xf8 then some 4
  else none

/-- Reads one escaped byte. -/
def readEscapedByte? (c : Cursor) : Option (Nat × Cursor) :=
  match c.rest with
  | '%' :: a :: b :: _ =>
    match hexValue? a, hexValue? b with
    | some a, some b => some (a * 16 + b, c.skipMany 3)
    | _, _ => none
  | _ => none

/-- Reads the further bytes of an escaped character. -/
def readTrailingBytes (activity : Activity) (start : Mark) :
    Nat → Nat → Cursor → Except SyntaxError (Nat × Cursor)
  | 0, value, c => .ok (value, c)
  | n + 1, value, c =>
    match readEscapedByte? c with
    | none => faultIn activity start c .tagEscape
    | some (byte, next) =>
      if 0x80 ≤ byte && byte < 0xc0 then
        readTrailingBytes activity start n (value * 64 + (byte - 0x80)) next
      else faultIn activity start c .tagTrailingOctet

/-- Reads a character that is written as escaped bytes. -/
def readEscapedChar (activity : Activity) (start : Mark) (c : Cursor) :
    Except SyntaxError (Char × Cursor) :=
  match readEscapedByte? c with
  | none => faultIn activity start c .tagEscape
  | some (byte, next) =>
    match byteCount? byte with
    | none => faultIn activity start c .tagLeadingOctet
    | some n => do
      let lead := if n = 1 then byte else byte % Nat.pow 2 (7 - n)
      let (value, next) ← readTrailingBytes activity start (n - 1) lead next
      pure (Char.ofNat value, next)

/-- Reads the text of a tag. -/
def readTagText (verbatim : Bool) (activity : Activity) (start : Mark) :
    Nat → List Char → Cursor → Except SyntaxError (List Char × Cursor)
  | 0, text, c => .ok (text, c)
  | fuel + 1, text, c =>
    match c.rest with
    | [] => .ok (text, c)
    | d :: _ =>
      if !isTagChar verbatim d then .ok (text, c)
      else if d == '%' then do
        let (e, c) ← readEscapedChar activity start c
        readTagText verbatim activity start fuel (text ++ [e]) c
      else readTagText verbatim activity start fuel (text ++ [d]) c.skip

/-- Reads the text of a tag, which must not be empty. -/
def readSomeTagText (verbatim : Bool) (activity : Activity) (start : Mark) (c : Cursor) :
    Except SyntaxError (String × Cursor) := do
  let (text, next) ← readTagText verbatim activity start (c.rest.length + 1) [] c
  if text.isEmpty then faultIn activity start next .tagText
  pure (String.ofList text, next)

/-- Reads an exclamation mark, a word and the exclamation mark behind it if there is one. -/
def readHandle (activity : Activity) (start : Mark) (c : Cursor) :
    Except SyntaxError (List Char × Cursor) :=
  if !c.sees '!' 0 then faultIn activity start c .tagHandle
  else
    let behind := c.skip.skipWhile isWord
    let handle := '!' :: c.skip.rest.takeWhile isWord
    if behind.sees '!' 0 then .ok (handle ++ ['!'], behind.skip) else .ok (handle, behind)

/-- Reads a tag as a handle and a suffix. A tag in pointed brackets has no handle; nor has the lone
exclamation mark, which is its own suffix. -/
def readTag (inFlow : Bool) (c : Cursor) : Except SyntaxError (String × String × Cursor) := do
  let start := c.mark
  let (handle, suffix, c) ←
    if c.sees '<' 1 then do
      let (suffix, c) ← readSomeTagText true .tagText start (c.skipMany 2)
      if !c.sees '>' 0 then faultIn .tag start c .tagClosing
      pure ("", suffix, c.skip)
    else do
      let (handle, c) ← readHandle .tag start c
      if 1 < handle.length && handle.getLast? == some '!' then
        let (suffix, c) ← readSomeTagText false .tagText start c
        pure (String.ofList handle, suffix, c)
      else
        let (text, c) ← readTagText false .tagText start (c.rest.length + 1) handle.tail c
        if text.isEmpty then pure ("", "!", c) else pure ("!", String.ofList text, c)
  if !(inFlow && c.sees ',' 0) && !c.separated 0 then faultIn .tag start c .tagEnd
  pure (handle, suffix, c)

/-! ## Directives -/

/-- Reads the digits of a version number. -/
def readVersionNumber (start : Mark) (c : Cursor) : Except SyntaxError (Nat × Cursor) :=
  let digits := c.rest.takeWhile Char.isDigit
  if 9 < digits.length then faultIn .versionDirective start (c.skipMany 9) .versionLength
  else if digits.isEmpty then faultIn .versionDirective start c .versionNumber
  else .ok (digits.foldl (fun n d => n * 10 + (d.toNat - '0'.toNat)) 0, c.skipMany digits.length)

/-- Reads the two numbers of a version directive. -/
def readVersion (start : Mark) (c : Cursor) : Except SyntaxError (TokenKind × Cursor) := do
  let (major, c) ← readVersionNumber start (c.skipWhile isBlank)
  if !c.sees '.' 0 then faultIn .versionDirective start c .versionDigit
  let (minor, c) ← readVersionNumber start c.skip
  pure (.versionDirective major minor, c)

/-- Reads the handle of a tag directive and what it stands for. -/
def readTagDirective (start : Mark) (c : Cursor) : Except SyntaxError (TokenKind × Cursor) := do
  let (handle, c) ← readHandle .tagDirectiveName start (c.skipWhile isBlank)
  if handle.getLast? != some '!' then faultIn .tagDirectiveHandle start c .tagHandle
  if !c.atBlank then faultIn .tagDirective start c .directiveBlank
  let (text, c) ← readSomeTagText true .tagDirectiveText start (c.skipWhile isBlank)
  if !c.separated 0 then faultIn .tagDirective start c .directiveBlankOrBreak
  pure (.tagDirective (String.ofList handle) text, c)

/-- Reads a directive and the rest of its line. -/
def readDirective (c : Cursor) : Except SyntaxError (TokenKind × Cursor) := do
  let start := c.mark
  let behind := c.skip.skipWhile isWord
  let name := String.ofList (c.skip.rest.takeWhile isWord)
  if name.isEmpty then faultIn .directive start behind .directiveName
  if !behind.separated 0 then faultIn .directive start behind .directiveNameEnd
  let (kind, c) ←
    if name = "YAML" then readVersion start behind
    else if name = "TAG" then readTagDirective start behind
    else faultIn .directive start behind .unknownDirective
  let c := (c.skipWhile isBlank).skipComment
  if !c.atBreakOrEnd then faultIn .directive start c .directiveEnd
  pure (kind, c.skipLine)

end Lookout.Yaml
