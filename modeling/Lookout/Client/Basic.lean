import Lookout.Client.Credentials
import Lookout.Fetch.Failure
import Lookout.Section
import Lookout.Url.Parse

/-!
# Clients

A client asks one server: it has the base address that every path is relative to, the credentials
and the time that a request may take.

* **`trimLeadingSlashes_cons`** — one more slash at the start of a path does not matter.
-/

namespace Lookout

/-- A client of one server. -/
structure Client where
  base : Url
  credentials : Credentials
  timeout : Duration

namespace Client

/-- Why there is no client for a configuration. -/
inductive SetupError
  | missingSecret (secret : Credentials.Missing)
  | invalidAddress (raw : String) (cause : Url.AddressError)
  | notWeb (raw : String)
deriving DecidableEq

/-- The text of a set-up error. -/
def SetupError.message : SetupError → String
  | .missingSecret secret => secret.message
  | .invalidAddress raw cause => s!"Invalid API url '{raw}': {cause.message}"
  | .notWeb raw => s!"API url must be http or https: {raw}"

/-- The base address of a written one. A slash is added at the end, so that relative paths are
appended and do not replace the last segment. -/
def parseBase (raw : String) : Except SetupError Url :=
  let normalized := if raw.toList.getLast? = some '/' then raw else raw ++ "/"
  match Url.parse normalized with
  | .error cause => .error (.invalidAddress raw cause)
  | .ok url => if url.isWeb then .ok url else .error (.notWeb raw)

/-- Sets up a client; a missing secret is noticed before a bad address. -/
def new (env : Credentials.Environment) (url : String) (auth : Auth) (timeoutSecs : Nat) :
    Except SetupError Client :=
  match Credentials.resolve env auth with
  | .error secret => .error (.missingSecret secret)
  | .ok credentials =>
    match parseBase url with
    | .error e => .error e
    | .ok base => .ok ⟨base, credentials, .ofSecs timeoutSecs⟩

/-- The path without slashes at its start. -/
def trimLeadingSlashes (cs : List Char) : List Char := cs.dropWhile (· == '/')

/-- The address of a path under a base address. -/
def endpointUnder (base : Url) (path : String) : Except Fetch.Failure Url :=
  match Url.read (some base) (trimLeadingSlashes path.toList) with
  | .ok url => .ok url
  | .error cause => .error (.transport path s!"invalid endpoint path: {cause.message}")

/-- The address of a path. -/
def endpoint (client : Client) (path : String) : Except Fetch.Failure Url :=
  endpointUnder client.base path

theorem trimLeadingSlashes_cons (cs : List Char) :
    trimLeadingSlashes ('/' :: cs) = trimLeadingSlashes cs := by
  simp [trimLeadingSlashes]

end Client

end Lookout
