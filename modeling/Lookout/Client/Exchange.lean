import Lookout.Client.Basic
import Lookout.Json.Reader
import Lookout.Json.Printer

/-!
# Exchanges

One request of a client from its first line to the document that comes back, over a network that is
given as what each connection does. Redirects are followed up to ten times. An answer that is not a
success, a broken body and a body that is no document are failures of the endpoint.

* **`prefix_of_takeBytes?`** — a body that is cut short is the start of what was sent.
* **`finish_success`** — a complete document in a successful answer is the result.
-/

namespace Lookout.Client

/-- The name and version that the client gives of itself. -/
def userAgent : String := "agency-dash/0.1.0"

/-- A request as the server sees it. -/
structure Request where
  method : Method
  target : String
  accept : String
  authorization : Option String
  userAgent : String
  contentType : Option String
  body : String
deriving DecidableEq

/-- The first line of a request. -/
def Request.line (r : Request) : String :=
  (if r.method = .post then "POST " else "GET ") ++ r.target ++ " HTTP/1.1"

/-- An answer: its status, its body, the length it announces and where it points to. -/
structure Response where
  status : Nat
  body : String
  contentLength : Option Nat
  location : Option String
deriving DecidableEq

/-- What a connection does. -/
inductive Connection
  | refuse
  | hang
  | close
  | answer (response : Response)
deriving DecidableEq

/-- What one request led to: the requests that reached a server, and the result. -/
structure Exchange where
  requests : List Request
  result : Except Fetch.Failure Json

/-- The address without credentials, and the credentials as user name and password. -/
def splitUserInfo (url : Url) : Url × Option (String × String) :=
  match url.authority with
  | none => (url, none)
  | some a =>
    let decode (cs : List Char) : Option String :=
      (Url.textOfBytes? (Url.percentDecode cs)).map String.ofList
    if a.username.isEmpty && a.password.isNone then (url, none)
    else
      match decode a.username with
      | none => (url, none)
      | some user =>
        ({ url with authority := some { a with username := [], password := none } },
          some (user, (a.password.bind decode).getD ""))

/-- A header value holds no control character except tabs. -/
def isHeaderValue (s : String) : Bool :=
  s.toList.all fun c => (0x20 ≤ c.toNat && c.toNat ≠ 0x7f) || c == '\t'

/-- The text of a failure before or while the request is sent. -/
def failureText (what : String) (url : Url) : String := s!"{what} for url ({url.text})"

/-- A request can name the host: hosts are not written with quotes, braces or grave accents there. -/
def canName (host : List Char) : Bool :=
  host.all fun c => !(['"', '\x7b', '\x7d', '\x60'].contains c)

/-- The largest number of redirects that are followed. -/
def maxRedirects : Nat := 10

/-- The statuses whose location is followed. -/
def isRedirect (status : Nat) : Bool := [301, 302, 303, 307, 308].contains status

/-- The characters that a location may be written with. -/
def isLocationChar (c : Char) : Bool :=
  c.isAlphanum || "-._~:/?#[]@!$&'()*+,;=".toList.contains c

/-- The location is a well-formed reference: allowed characters, whole percent escapes, brackets only
around a host and one fragment at most. -/
def isReference : List Char → Bool
  | '%' :: a :: b :: rest =>
    (Url.hexValue? a).isSome && (Url.hexValue? b).isSome && isReference rest
  | c :: rest =>
    isLocationChar c && !(c == '#' && rest.contains '#') && isReference rest
  | [] => true

/-- The address that a location points to, if it is one that can be followed. -/
def followed? (base : Url) (location : String) : Option Url :=
  let cs := location.toList
  let named : Bool := match Url.takeScheme? cs with
    | some (_, '/' :: '/' :: _) => true
    | some _ => false
    | none => true
  if isReference cs && named then
    match Url.read (some base) cs with
    | .ok url => some { url with fragment := none }
    | .error _ => none
  else none

/-- The request without a body, as a redirect asks for it. -/
def Request.withoutBody (r : Request) : Request :=
  { r with method := .get, contentType := none, body := "" }

/-- The request that follows an answer of the given status. -/
def Request.afterRedirect (r : Request) (status : Nat) : Request :=
  if status = 307 || status = 308 then r else r.withoutBody

/-- The two addresses are served by the same host and port. -/
def sameServer (a b : Url) : Bool :=
  a.host? == b.host? && a.effectivePort == b.effectivePort

/-- The first `n` bytes of a text, if they end between two characters; none if it has fewer. -/
def takeBytes? : Nat → List Char → Option (List Char)
  | 0, _ => some []
  | n + 1, c :: rest =>
    if c.utf8Size ≤ n + 1 then (takeBytes? (n + 1 - c.utf8Size) rest).map (c :: ·) else none
  | _ + 1, [] => none

/-- What is taken stands at the start of the text. -/
theorem prefix_of_takeBytes? {n : Nat} {cs taken : List Char} (h : takeBytes? n cs = some taken) :
    taken <+: cs := by
  fun_induction takeBytes? n cs generalizing taken with
  | case1 cs =>
    obtain rfl := Option.some.inj h
    exact List.nil_prefix
  | case2 n c rest fits ih =>
    obtain ⟨inner, hinner, rfl⟩ := Option.map_eq_some_iff.1 h
    exact List.prefix_cons_inj c |>.2 (ih hinner)
  | case3 => simp at h
  | case4 => simp at h

/-- The body that arrives: cut at the announced length, none if the connection ends before it. -/
def Response.received? (r : Response) : Option String :=
  match r.contentLength with
  | none => some r.body
  | some n => (takeBytes? n r.body.toList).map String.ofList

/-- The result of an answer that is not followed. -/
def finish (endpoint : String) (r : Response) : Except Fetch.Failure Json :=
  if 200 ≤ r.status && r.status < 300 then
    match r.received?.bind Json.parse? with
    | some v => .ok v
    | none => .error (.decode endpoint "error decoding response body")
  else .error (.http endpoint r.status)

/-- What an exchange keeps from one connection to the next: the address asked, the request without
the credentials dropped on the way, the credentials, and the number of redirects followed. -/
structure Hop where
  url : Url
  request : Request
  authorization : Option String
  followed : Nat

/-- Follows an exchange through its connections; `network` says what each of them does. -/
def follow (start : Url) (endpoint : String) (timeout : Duration) (network : Nat → Connection) :
    Nat → Hop → Exchange
  | 0, _ => ⟨[], .error (.timeout timeout)⟩
  | fuel + 1, hop =>
    let sent := { hop.request with
      target := String.ofList hop.url.requestTarget, authorization := hop.authorization }
    let broken : Fetch.Failure := .transport endpoint (failureText "error sending request" start)
    match network hop.followed with
    | .refuse => ⟨[], .error broken⟩
    | .hang => ⟨[], .error (.timeout timeout)⟩
    | .close => ⟨[sent], .error broken⟩
    | .answer r =>
      let target? := if isRedirect r.status then r.location.bind (followed? hop.url) else none
      match target? with
      | none => ⟨[sent], finish endpoint r⟩
      | some target =>
        if maxRedirects ≤ hop.followed then
          ⟨[sent], .error (.transport endpoint (failureText "error following redirect" hop.url))⟩
        else if !target.isWeb then
          ⟨[sent], .error (.transport endpoint (failureText "builder error" target))⟩
        else
          let request := hop.request.afterRedirect r.status
          let next : Hop :=
            { url := target
              request := request
              authorization := if sameServer hop.url target then request.authorization else none
              followed := hop.followed + 1 }
          let rest := follow start endpoint timeout network fuel next
          ⟨sent :: rest.requests, rest.result⟩

/-- Asks for a section and follows the answers. -/
def exchange (client : Client) (network : Nat → Connection) (s : Section) : Exchange :=
  match client.endpoint s.path with
  | .error e => ⟨[], .error e⟩
  | .ok url =>
    let (url, userInfo) := splitUserInfo url
    let fail (text : String) : Exchange := ⟨[], .error (.transport s.path text)⟩
    if url.host?.getD [] |>.isEmpty then fail (failureText "builder error" url)
    else
      let configured := client.credentials.header?
      if configured.any (!isHeaderValue ·) then fail "builder error"
      else if !url.isWeb || !canName (url.host?.getD []) then fail (failureText "builder error" url)
      else
        let authorization := configured.or (userInfo.map fun (u, p) => Credentials.basicHeader u p)
        let posts := s.method = .post
        let request : Request :=
          { method := s.method
            target := ""
            accept := "application/json"
            authorization := authorization
            userAgent := userAgent
            contentType := if posts then some "application/json" else none
            body := if posts then (s.body.getD .null).text else "" }
        follow url s.path client.timeout network (maxRedirects + 2) ⟨url, request, authorization, 0⟩

/-- A complete document in a successful answer is the result. -/
theorem finish_success {endpoint : String} {r : Response} {v : Json}
    (success : 200 ≤ r.status ∧ r.status < 300) (document : r.received?.bind Json.parse? = some v) :
    finish endpoint r = .ok v := by
  simp [finish, success.1, success.2, document]

end Lookout.Client
