import Lookout.Duration
import Lookout.Text.Quoted

/-!
# Fetch failures

Why data could not be fetched. Every failure of the network is one of these values, so that whoever
shows data only ever sees failures as values.
-/

namespace Lookout.Fetch

/-- Why data could not be fetched. -/
inductive Failure
  | http (endpoint : String) (status : Nat)
  | transport (endpoint : String) (message : String)
  | decode (endpoint : String) (message : String)
  | timeout (after : Duration)
deriving DecidableEq, Repr

namespace Failure

/-- The text that tells the user about a failure; a timeout is told in whole seconds. -/
def message : Failure → String
  | .http endpoint status => s!"{endpoint} returned HTTP {status}"
  | .transport endpoint text => s!"request to {endpoint} failed: {text}"
  | .decode endpoint text => s!"invalid response from {endpoint}: {text}"
  | .timeout after => s!"timed out after {after.secs}s"

/-- The failure by its parts, for inspection. -/
def inspect : Failure → String
  | .http endpoint status =>
    "Http \x7b endpoint: " ++ Text.quote endpoint ++ ", status: " ++ toString status ++ " \x7d"
  | .transport endpoint text =>
    "Transport \x7b endpoint: " ++ Text.quote endpoint ++ ", message: " ++ Text.quote text ++ " \x7d"
  | .decode endpoint text =>
    "Decode \x7b endpoint: " ++ Text.quote endpoint ++ ", message: " ++ Text.quote text ++ " \x7d"
  | .timeout after => "Timeout \x7b after: " ++ after.unitText ++ " \x7d"

end Failure

end Lookout.Fetch
