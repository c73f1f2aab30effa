import Lookout.Url.Host

/-!
# Addresses

An address by its parts, and its text. A path is either a list of segments, each written behind a
slash, or an opaque text that no relative reference can be resolved against.

* **`origin_withFragment`** — a fragment does not change where a request goes.
-/

namespace Lookout

namespace Url

/-- Who is asked: the host with its port, and the credentials written before it. The port is missing
if it is the default one of the scheme. -/
structure Authority where
  username : List Char
  password : Option (List Char)
  host : List Char
  port : Option Nat
deriving DecidableEq, Repr

/-- The path of an address. -/
inductive Path
  | segments (parts : List (List Char))
  | opaqueText (text : List Char)
deriving DecidableEq, Repr

end Url

/-- An address. -/
structure Url where
  scheme : List Char
  authority : Option Url.Authority
  path : Url.Path
  query : Option (List Char)
  fragment : Option (List Char)
deriving DecidableEq, Repr

namespace Url

/-- The default port of a scheme. -/
def defaultPort? (scheme : List Char) : Option Nat :=
  match String.ofList scheme with
  | "http" | "ws" => some 80
  | "https" | "wss" => some 443
  | "ftp" => some 21
  | _ => none

/-- The schemes whose addresses always name a host and treat a backslash as a slash. -/
def isSpecialScheme (scheme : List Char) : Bool :=
  (defaultPort? scheme).isSome || scheme == ['f', 'i', 'l', 'e']

/-- The address has one of the special schemes. -/
def isSpecial (u : Url) : Bool := isSpecialScheme u.scheme

/-- The address belongs to the web. -/
def isWeb (u : Url) : Bool :=
  u.scheme == ['h', 't', 't', 'p'] || u.scheme == ['h', 't', 't', 'p', 's']

/-- The port that a connection uses. -/
def effectivePort (u : Url) : Option Nat :=
  (u.authority.bind (·.port)).or (defaultPort? u.scheme)

/-- The host, if the address names one. -/
def host? (u : Url) : Option (List Char) := u.authority.map (·.host)

/-- Scheme, host and port: where a request goes. -/
def origin (u : Url) : List Char × Option (List Char) × Option Nat :=
  (u.scheme, u.host?, u.effectivePort)

/-- The text of a path. -/
def Path.text : Path → List Char
  | .segments parts => parts.flatMap ('/' :: ·)
  | .opaqueText text => text

/-- The credentials of an authority with the mark behind them. -/
def Authority.userInfoText (a : Authority) : List Char :=
  match a.username, a.password with
  | [], none => []
  | user, none => user ++ ['@']
  | user, some password => user ++ ':' :: password ++ ['@']

/-- The text of an authority. -/
def Authority.text (a : Authority) : List Char :=
  a.userInfoText ++ a.host ++
    match a.port with
    | some port => ':' :: Nat.toDigits 10 port
    | none => []

/-- The address up to its path. -/
def prefixText (u : Url) : List Char :=
  u.scheme ++ ':' ::
    match u.authority, u.path with
    | some a, _ => '/' :: '/' :: a.text
    | none, .segments ([] :: _ :: _) => ['/', '.']
    | none, _ => []

/-- A part of the address behind its mark. -/
def markedPart (mark : Char) : Option (List Char) → List Char
  | some part => mark :: part
  | none => []

/-- The text of an address. -/
def toList (u : Url) : List Char :=
  u.prefixText ++ u.path.text ++ markedPart '?' u.query ++ markedPart '#' u.fragment

/-- The text of an address as a string. -/
def text (u : Url) : String := String.ofList u.toList

/-- What the first line of a request names: the path and the query. -/
def requestTarget (u : Url) : List Char := u.path.text ++ markedPart '?' u.query

/-- A fragment does not change where a request goes. -/
theorem origin_withFragment (u : Url) (f : Option (List Char)) :
    origin { u with fragment := f } = origin u := rfl

end Url

end Lookout
