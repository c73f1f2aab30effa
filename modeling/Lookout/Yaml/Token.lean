import Lookout.Yaml.SyntaxError

/-!
# Tokens

The smallest parts of a text: indicators, the starts and ends of blocks that indentation alone shows,
and the properties and texts of nodes. A text that breaks off ends with a token that says why.
-/

namespace Lookout.Yaml

/-- How a scalar is written. -/
inductive Style
  | plain
  | quoted
  | literal
  | folded
deriving DecidableEq, Inhabited, Repr

/-- The kind of a token with what it carries. -/
inductive TokenKind
  | versionDirective (major minor : Nat)
  | tagDirective (handle start : String)
  | documentStart
  | documentEnd
  | blockSequenceStart
  | blockMappingStart
  | blockEnd
  | flowSequenceStart
  | flowSequenceEnd
  | flowMappingStart
  | flowMappingEnd
  | blockEntry
  | flowEntry
  | key
  | value
  | alias (name : String)
  | anchor (name : String)
  | tag (handle suffix : String)
  | scalar (style : Style) (text : String)
  | streamEnd
  | broken (error : SyntaxError)
deriving DecidableEq, Repr

/-- A token with the place where it starts. -/
structure Token where
  kind : TokenKind
  mark : Mark
deriving DecidableEq, Repr

/-- The place behind a token of one character. -/
def Token.behind (t : Token) : Mark :=
  { t.mark with index := t.mark.index + 1, column := t.mark.column + 1 }

end Lookout.Yaml
