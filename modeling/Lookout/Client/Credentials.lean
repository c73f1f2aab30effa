import Lookout.Client.Base64
import Lookout.Config.Auth

/-!
# Credentials

The setting for authentication together with its secret from the environment, the header it turns
into, and a form for inspection that never shows a secret.

* **`inspect_bearer`**, **`inspect_basic`** — what is shown does not depend on the secret.
-/

namespace Lookout

/-- Credentials with their secrets. -/
inductive Credentials
  | none
  | bearer (token : String)
  | basic (username password : String)
deriving DecidableEq

namespace Credentials

/-- The environment: names and values of variables. -/
abbrev Environment := List (String × String)

/-- The secret that is missing from the environment. -/
inductive Missing
  | token
  | password
deriving DecidableEq, Repr

/-- The variable that holds the token. -/
def tokenVariable : String := "AGENCY_DASH_API_TOKEN"

/-- The variable that holds the password. -/
def passwordVariable : String := "AGENCY_DASH_API_PASSWORD"

/-- The text that names the missing secret. -/
def Missing.message : Missing → String
  | .token => s!"API token not found. Set {tokenVariable} environment variable."
  | .password => s!"API password not found. Set {passwordVariable} environment variable."

/-- Adds the secrets of the environment to a setting. -/
def resolve (env : Environment) : Auth → Except Missing Credentials
  | .none => .ok .none
  | .bearer =>
    match env.lookup tokenVariable with
    | some token => .ok (.bearer token)
    | Option.none => .error .token
  | .basic username =>
    match env.lookup passwordVariable with
    | some password => .ok (.basic username password)
    | Option.none => .error .password

/-- The credentials for inspection, secrets hidden. -/
def inspect : Credentials → String
  | .none => "None"
  | .bearer _ => "Bearer(***)"
  | .basic username _ => s!"Basic({username}, ***)"

theorem inspect_bearer (a b : String) : inspect (.bearer a) = inspect (.bearer b) := rfl

theorem inspect_basic (username a b : String) :
    inspect (.basic username a) = inspect (.basic username b) := rfl

/-- The header value for a user name and a password. -/
def basicHeader (username password : String) : String :=
  "Basic " ++ Client.Base64.ofText (username ++ ":" ++ password)

/-- The value of the authorization header, if there is one. -/
def header? : Credentials → Option String
  | .none => Option.none
  | .bearer token => some ("Bearer " ++ token)
  | .basic username password => some (basicHeader username password)

end Credentials

end Lookout
