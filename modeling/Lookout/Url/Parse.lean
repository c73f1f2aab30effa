import Lookout.Url.Basic

/-!
# Reading addresses

Reading an absolute address, and resolving a reference against a base. Dot segments are removed from
paths while they are read, so a path never names its parent.

* **`resolveSegments_dotless`** — segments without dot segments are appended as they are.
-/

namespace Lookout.Url

/-- The text without control characters and blanks at its ends, and without tabs and line ends. -/
def cleanInput (cs : List Char) : List Char :=
  let blank (c : Char) : Bool := c.toNat ≤ 0x20
  let trimmed := ((cs.dropWhile blank).reverse.dropWhile blank).reverse
  trimmed.filter fun c => !(c == '\t' || c == '\n' || c == '\x0d')

/-- The scheme of an absolute address, in lower case, and the text behind its colon. -/
def takeScheme? (cs : List Char) : Option (List Char × List Char) :=
  let letter (c : Char) : Bool := c.isAlpha
  let inner (c : Char) : Bool := c.isAlphanum || c == '+' || c == '-' || c == '.'
  match cs with
  | [] => none
  | first :: _ =>
    if letter first then
      match cs.dropWhile inner with
      | ':' :: rest => some ((cs.takeWhile inner).map Char.toLower, rest)
      | _ => none
    else none

/-- A segment that stands for the parent. -/
def isDoubleDot (segment : List Char) : Bool :=
  ["..", ".%2e", "%2e.", "%2e%2e"].contains (String.ofList (segment.map Char.toLower))

/-- A segment that stands for the place itself. -/
def isSingleDot (segment : List Char) : Bool :=
  [".", "%2e"].contains (String.ofList (segment.map Char.toLower))

/-- Appends segments to a path; a dot segment at the end leaves an empty one. -/
def resolveSegments : List (List Char) → List (List Char) → List (List Char)
  | path, [] => path
  | path, segment :: rest =>
    if isDoubleDot segment then
      resolveSegments (if rest.isEmpty then path.dropLast ++ [[]] else path.dropLast) rest
    else if isSingleDot segment then
      resolveSegments (if rest.isEmpty then path ++ [[]] else path) rest
    else resolveSegments (path ++ [segment]) rest

/-- The character ends a path segment. -/
def isSeparator (special : Bool) (c : Char) : Bool := c == '/' || (special && c == '\\')

/-- The path that starts with the given segments and goes on with the written text. -/
def readPath (special : Bool) (start : List (List Char)) (written : List Char) :
    List (List Char) :=
  resolveSegments start ((splitAt (isSeparator special) written).map (percentEncode inPathSet))

/-- The text up to the query or the fragment, and the rest. -/
def spanPath (cs : List Char) : List Char × List Char :=
  (cs.takeWhile fun c => c != '?' && c != '#', cs.dropWhile fun c => c != '?' && c != '#')

/-- The query and the fragment at the start of a text. -/
def readTail (special : Bool) (cs : List Char) : Option (List Char) × Option (List Char) :=
  let fragmentOf (cs : List Char) : Option (List Char) :=
    match cs with
    | '#' :: rest => some (percentEncode inFragmentSet rest)
    | _ => none
  match cs with
  | '?' :: rest =>
    let set := if special then inSpecialQuerySet else inQuerySet
    (some (percentEncode set (rest.takeWhile (· != '#'))), fragmentOf (rest.dropWhile (· != '#')))
  | cs => (none, fragmentOf cs)

/-- Splits off the credentials at the start of an authority: user name, password and the rest. -/
def readUserInfo (special : Bool) (cs : List Char) :
    Except AddressError (List Char × Option (List Char) × List Char) :=
  let stops (c : Char) : Bool := c == '/' || c == '?' || c == '#' || (special && c == '\\')
  let authority := cs.takeWhile (!stops ·)
  if authority.contains '@' then
    let host := (authority.reverse.takeWhile (· != '@')).reverse
    let info := authority.take (authority.length - host.length - 1)
    let rest := cs.drop (info.length + 1)
    if info.isEmpty then
      if host.isEmpty && !rest.isEmpty then .error .emptyHost else .ok ([], none, rest)
    else
      let user := info.takeWhile (· != ':')
      let password := (info.dropWhile (· != ':')).drop 1
      .ok (percentEncode inUserInfoSet user,
        if password.isEmpty then none else some (percentEncode inUserInfoSet password), rest)
  else .ok ([], none, cs)

/-- The length of a host at the start of a text; a colon inside brackets belongs to it. -/
def hostLength (special : Bool) : (inBrackets : Bool) → List Char → Nat
  | _, [] => 0
  | inBrackets, c :: rest =>
    if (c == ':' && !inBrackets) || c == '/' || c == '?' || c == '#' || (special && c == '\\') then 0
    else hostLength special (c == '[' || (inBrackets && c != ']')) rest + 1

/-- Reads the port behind the host, if there is one. -/
def readPort (scheme : List Char) (cs : List Char) :
    Except AddressError (Option Nat × List Char) :=
  match cs with
  | ':' :: rest =>
    let digits := rest.takeWhile Char.isDigit
    let behind := rest.dropWhile Char.isDigit
    let port := digits.foldl (fun n d => n * 10 + (d.toNat - 48)) 0
    let ends : Bool := match behind with
      | [] => true
      | c :: _ => c == '/' || c == '\\' || c == '?' || c == '#'
    if 65535 < port || !ends then .error .invalidPort
    else if digits.isEmpty || defaultPort? scheme == some port then .ok (none, behind)
    else .ok (some port, behind)
  | cs => .ok (none, cs)

/-- Reads the address behind the scheme and the two slashes. -/
def readAuthority (scheme : List Char) (cs : List Char) : Except AddressError Url := do
  let special := isSpecialScheme scheme
  let (username, password, rest) ← readUserInfo special cs
  let length := hostLength special false rest
  let written := rest.take length
  let behind := rest.drop length
  if written.isEmpty && (special || behind.head? == some ':' || !username.isEmpty ||
      password.isSome) then
    .error .emptyHost
  else
    let host ← if special then parseHost written else parseOpaqueHost written
    let (port, rest) ← readPort scheme behind
    let (path, tail) := spanPath rest
    let (query, fragment) := readTail special tail
    let segments :=
      match path with
      | [] => if special then [[]] else []
      | c :: inner =>
        if isSeparator special c then readPath special [] inner else readPath special [] path
    pure ⟨scheme, some ⟨username, password, host, port⟩, .segments segments, query, fragment⟩

/-- The host of a file address; the local host is not written. -/
def fileHost (written : List Char) : Except AddressError (List Char) :=
  if written.isEmpty then .ok []
  else do
    let host ← parseHost written
    pure (if host == "localhost".toList then [] else host)

/-- Reads a file address behind its scheme. -/
def readFile (scheme : List Char) (cs : List Char) : Except AddressError Url := do
  let (path, tail) := spanPath cs
  let (query, fragment) := readTail true tail
  let build (host : List Char) (segments : List (List Char)) : Url :=
    ⟨scheme, some ⟨[], none, host, none⟩, .segments segments, query, fragment⟩
  match path with
  | a :: b :: rest =>
    if isSeparator true a && isSeparator true b then
      let written := rest.takeWhile (!isSeparator true ·)
      let host ← fileHost written
      match rest.drop written.length with
      | [] => pure (build host [[]])
      | _ :: inner => pure (build host (readPath true [] inner))
    else if isSeparator true a then pure (build [] (readPath true [] (b :: rest)))
    else pure (build [] (readPath true [] path))
  | [a] => pure (build [] (if isSeparator true a then [[]] else readPath true [] [a]))
  | [] => pure (build [] [[]])

/-- Reads an address of a scheme without rules of its own, behind the colon. -/
def readPlain (scheme : List Char) (cs : List Char) : Except AddressError Url :=
  match cs with
  | '/' :: '/' :: rest => readAuthority scheme rest
  | cs =>
    let (path, tail) := spanPath cs
    let (query, fragment) := readTail false tail
    match path with
    | '/' :: inner => .ok ⟨scheme, none, .segments (readPath false [] inner), query, fragment⟩
    | path => .ok ⟨scheme, none, .opaqueText (percentEncode isControl path), query, fragment⟩

/-- The slashes at the start of a text, and the text behind them. -/
def spanSlashes (cs : List Char) : Nat × List Char :=
  let slash (c : Char) : Bool := c == '/' || c == '\\'
  ((cs.takeWhile slash).length, cs.dropWhile slash)

/-- Resolves a reference without a scheme against the base. -/
def resolve (base : Url) (cs : List Char) : Except AddressError Url :=
  let special := base.isSpecial
  let baseSegments : List (List Char) := match base.path with
    | .segments parts => parts
    | .opaqueText _ => []
  let atPath (start : List (List Char)) (cs : List Char) : Url :=
    let (path, tail) := spanPath cs
    let (query, fragment) := readTail special tail
    { base with path := .segments (readPath special start path), query := query, fragment := fragment }
  match cs with
  | [] => .ok { base with fragment := none }
  | '?' :: _ =>
    let (query, fragment) := readTail special cs
    .ok { base with query := query, fragment := fragment }
  | '#' :: _ => .ok { base with fragment := (readTail special cs).2 }
  | c :: rest =>
    if isSeparator special c then
      let (slashes, behind) := spanSlashes cs
      if 2 ≤ slashes then
        match cs with
        | '/' :: '/' :: after => readAuthority base.scheme after
        | _ => readAuthority base.scheme behind
      else .ok (atPath [] rest)
    else .ok (atPath baseSegments.dropLast cs)

/-- Reads an absolute address, or resolves a reference if there is a base. -/
def read (base : Option Url) (input : List Char) : Except AddressError Url :=
  let cs := cleanInput input
  match takeScheme? cs with
  | some (scheme, rest) =>
    if scheme == "file".toList then readFile scheme rest
    else if isSpecialScheme scheme then
      let (slashes, behind) := spanSlashes rest
      match base with
      | some b => if slashes < 2 && b.scheme == scheme then resolve b rest
                  else readAuthority scheme behind
      | none => readAuthority scheme behind
    else readPlain scheme rest
  | none =>
    match base with
    | none => .error .relativeWithoutBase
    | some b =>
      match b.path, cs with
      | .opaqueText _, '#' :: _ => .ok { b with fragment := (readTail false cs).2 }
      | .opaqueText _, _ => .error .relativeToOpaqueBase
      | _, cs => resolve b cs

/-- Reads an absolute address. -/
def parse (s : String) : Except AddressError Url := read none s.toList

/-- Resolves a reference against a base. -/
def join (base : Url) (s : String) : Except AddressError Url := read (some base) s.toList

/-- Segments without dot segments are appended as they are. -/
theorem resolveSegments_dotless {added : List (List Char)}
    (dotless : ∀ s ∈ added, isDoubleDot s = false ∧ isSingleDot s = false)
    (path : List (List Char)) : resolveSegments path added = path ++ added := by
  induction added generalizing path with
  | nil => simp [resolveSegments]
  | cons s rest ih =>
    obtain ⟨notDouble, notSingle⟩ := dotless s (by simp)
    rw [resolveSegments, notDouble, notSingle]
    simp only [Bool.false_eq_true, if_false]
    rw [ih (fun t ht => dotless t (by simp [ht]))]
    simp

end Lookout.Url
