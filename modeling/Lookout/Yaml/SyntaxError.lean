import Lookout.Yaml.Cursor

/-!
# Syntax errors

What is wrong with a text that is no document, where, and what was being read there.
-/

namespace Lookout.Yaml

/-- What was being read when a fault was found. -/
inductive Activity
  | simpleKey | nextToken | directive | versionDirective | tagDirective | tagDirectiveName
  | tagDirectiveHandle | tagDirectiveText | anchor | aliasName | tag | tagText
  | blockScalar | quotedScalar | quotedEscape | plainScalar
  | blockNode | flowNode | node | blockSequence | blockMapping | flowSequence | flowMapping
deriving DecidableEq, Repr

/-- The words for an activity. -/
def Activity.text : Activity → String
  | .simpleKey => "while scanning a simple key"
  | .nextToken => "while scanning for the next token"
  | .directive => "while scanning a directive"
  | .versionDirective => "while scanning a %YAML directive"
  | .tagDirective => "while scanning a %TAG directive"
  | .tagDirectiveName => "while scanning a tag directive"
  | .tagDirectiveHandle => "while parsing a tag directive"
  | .tagDirectiveText => "while parsing a %TAG directive"
  | .anchor => "while scanning an anchor"
  | .aliasName => "while scanning an alias"
  | .tag => "while scanning a tag"
  | .tagText => "while parsing a tag"
  | .blockScalar => "while scanning a block scalar"
  | .quotedScalar => "while scanning a quoted scalar"
  | .quotedEscape => "while parsing a quoted scalar"
  | .plainScalar => "while scanning a plain scalar"
  | .blockNode => "while parsing a block node"
  | .flowNode => "while parsing a flow node"
  | .node => "while parsing a node"
  | .blockSequence => "while parsing a block collection"
  | .blockMapping => "while parsing a block mapping"
  | .flowSequence => "while parsing a flow sequence"
  | .flowMapping => "while parsing a flow mapping"

/-- What is wrong. -/
inductive Fault
  | keyWithoutColon | entryNotAllowed | keyNotAllowed | valueNotAllowed | noToken
  | directiveName | directiveNameEnd | unknownDirective | directiveEnd
  | versionDigit | versionNumber | versionLength | duplicateVersion | incompatibleVersion
  | directiveBlank | directiveBlankOrBreak | duplicateTag
  | anchorName | tagClosing | tagEnd | tagHandle | tagText | tagEscape | tagLeadingOctet
  | tagTrailingOctet | undefinedTagHandle
  | zeroIndentation | blockScalarHeader | tabInIndentation
  | indicatorInQuotes | endInQuotes | unknownEscape | escapeDigits | escapeValue
  | colonInFlow | tabInPlain
  | documentStart | nodeContent | sequenceEntry | mappingKey | flowSequenceEnd | flowMappingEnd
  | controlCharacter | unknownAnchor
deriving DecidableEq, Repr

/-- The words for a fault. -/
def Fault.text : Fault → String
  | .keyWithoutColon => "could not find expected ':'"
  | .entryNotAllowed => "block sequence entries are not allowed in this context"
  | .keyNotAllowed => "mapping keys are not allowed in this context"
  | .valueNotAllowed => "mapping values are not allowed in this context"
  | .noToken => "found character that cannot start any token"
  | .directiveName => "could not find expected directive name"
  | .directiveNameEnd => "found unexpected non-alphabetical character"
  | .unknownDirective => "found unknown directive name"
  | .directiveEnd => "did not find expected comment or line break"
  | .versionDigit => "did not find expected digit or '.' character"
  | .versionNumber => "did not find expected version number"
  | .versionLength => "found extremely long version number"
  | .duplicateVersion => "found duplicate %YAML directive"
  | .incompatibleVersion => "found incompatible YAML document"
  | .directiveBlank => "did not find expected whitespace"
  | .directiveBlankOrBreak => "did not find expected whitespace or line break"
  | .duplicateTag => "found duplicate %TAG directive"
  | .anchorName => "did not find expected alphabetic or numeric character"
  | .tagClosing => "did not find the expected '>'"
  | .tagEnd => "did not find expected whitespace or line break"
  | .tagHandle => "did not find expected '!'"
  | .tagText => "did not find expected tag URI"
  | .tagEscape => "did not find URI escaped octet"
  | .tagLeadingOctet => "found an incorrect leading UTF-8 octet"
  | .tagTrailingOctet => "found an incorrect trailing UTF-8 octet"
  | .undefinedTagHandle => "found undefined tag handle"
  | .zeroIndentation => "found an indentation indicator equal to 0"
  | .blockScalarHeader => "did not find expected comment or line break"
  | .tabInIndentation => "found a tab character where an indentation space is expected"
  | .indicatorInQuotes => "found unexpected document indicator"
  | .endInQuotes => "found unexpected end of stream"
  | .unknownEscape => "found unknown escape character"
  | .escapeDigits => "did not find expected hexdecimal number"
  | .escapeValue => "found invalid Unicode character escape code"
  | .colonInFlow => "found unexpected ':'"
  | .tabInPlain => "found a tab character that violates indentation"
  | .documentStart => "did not find expected <document start>"
  | .nodeContent => "did not find expected node content"
  | .sequenceEntry => "did not find expected '-' indicator"
  | .mappingKey => "did not find expected key"
  | .flowSequenceEnd => "did not find expected ',' or ']'"
  | .flowMappingEnd => "did not find expected ',' or '\x7d'"
  | .controlCharacter => "control characters are not allowed"
  | .unknownAnchor => "unknown anchor"

/-- A fault at a place, with what was being read and where that began. -/
structure SyntaxError where
  fault : Fault
  place : Mark
  activity : Option (Activity × Mark)
deriving DecidableEq, Repr

/-- The text of a syntax error. -/
def SyntaxError.message (e : SyntaxError) : String :=
  let place :=
    if !e.place.isOrigin then " at " ++ e.place.text
    else if e.fault = .controlCharacter && e.place.index ≠ 0 then s!" at position {e.place.index}"
    else ""
  let activity := match e.activity with
    | none => ""
    | some (a, m) =>
      let from_ := if !m.isOrigin && (m.line ≠ e.place.line || m.column ≠ e.place.column) then
        " at " ++ m.text else ""
      ", " ++ a.text ++ from_
  e.fault.text ++ place ++ activity

end Lookout.Yaml
