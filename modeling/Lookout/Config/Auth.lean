import Lookout.Decode.Buffered

/-!
# Authentication

How requests authenticate: not at all, with a token, or with a user name and a password. The setting
names the kind and never holds a secret. It is tagged: one member tells which kind the others belong
to, wherever it stands among them.
-/

namespace Lookout

/-- How requests authenticate. -/
inductive Auth
  | none
  | bearer
  | basic (username : String)
deriving DecidableEq, Repr

namespace Auth

open Decode

/-- The member that names the kind. -/
def tagName : String := "type"

/-- The words for the whole setting in a mismatch. -/
def expectation : String := "internally tagged enum AuthConfig"

/-- The kinds of authentication. -/
inductive Kind
  | none
  | bearer
  | basic
deriving DecidableEq

/-- The names of the kinds. -/
def Kind.names : List String := ["none", "bearer", "basic"]

/-- The kind of a name. -/
def Kind.ofName (name : String) : Except Mismatch Kind :=
  match name with
  | "none" => .ok .none
  | "bearer" => .ok .bearer
  | "basic" => .ok .basic
  | name => .error (.unknownVariant name Kind.names)

/-- Reads a text. -/
def readText : Buffered → Except Mismatch String
  | .text s => .ok s
  | v => v.mistyped "a string"

/-- The key names the user: by name, or by its position. -/
def isUserKey : Buffered → Except Mismatch Bool
  | .text s => .ok (s == "username")
  | .whole n => if 0 ≤ n then .ok (n == 0) else Buffered.mistyped "field identifier" (.whole n)
  | v => v.mistyped "field identifier"

/-- Reads the user name among the members. -/
def readUser : Option String → List (Buffered × Buffered) → Except Mismatch String
  | some user, [] => .ok user
  | Option.none, [] => .error (.missingField "username")
  | user, (key, v) :: rest => do
    if ← isUserKey key then
      match user with
      | some _ => .error (.duplicateField "username")
      | Option.none => readUser (some (← readText v)) rest
    else readUser user rest

/-- The words for a number of items in a mismatch. -/
def itemCount (n : Nat) : String :=
  if n = 1 then "1 element in sequence" else s!"{n} elements in sequence"

/-- Reads the setting of a kind from the members beside the tag. -/
def ofKind (kind : Kind) (content : Buffered) : Except Mismatch Auth :=
  match kind, content with
  | .basic, .map entries => (readUser Option.none entries).map .basic
  | .basic, .list [] => .error (.wrongLength 0 "struct variant AuthConfig::Basic with 1 element")
  | .basic, .list (v :: rest) => do
    let user ← readText v
    if rest.isEmpty then pure (.basic user) else .error (.wrongLength (rest.length + 1) (itemCount 1))
  | .basic, v => v.mistyped "struct variant AuthConfig::Basic"
  | _, .list (_ :: rest) => .error (.wrongLength (rest.length + 1) (itemCount 0))
  | .none, _ => .ok .none
  | .bearer, _ => .ok .bearer

/-- Splits the tag off the members of an object. -/
def splitTag : Option Kind → List (String × Json) →
    Except Mismatch (Option Kind × List (Buffered × Buffered))
  | kind, [] => .ok (kind, [])
  | kind, (name, v) :: rest =>
    if name = tagName then
      match kind, v with
      | some _, _ => .error (.duplicateField tagName)
      | Option.none, .str s => do splitTag (some (← Kind.ofName s)) rest
      | Option.none, v => .error (.wrongType (.ofJson v) "variant identifier")
    else do
      let (kind, others) ← splitTag kind rest
      pure (kind, (.text name, .ofJson v) :: others)

/-- Reads the setting from a document. -/
def read : Json → Except Mismatch Auth
  | .obj fields => do
    match ← splitTag Option.none fields with
    | (some kind, others) => ofKind kind (.map others)
    | (Option.none, _) => .error (.missingField tagName)
  | .arr [] => .error (.missingField tagName)
  | .arr (.str s :: rest) => do ofKind (← Kind.ofName s) (.list (Buffered.ofItems rest))
  | .arr (v :: _) => .error (.wrongType (.ofJson v) "variant identifier")
  | v => .error (.wrongType (.ofJson v) expectation)

end Auth

end Lookout
