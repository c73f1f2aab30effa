import Lookout.Duration

/-!
# Polling policies

When a page's data is fetched again: how long to wait after each background fetch, and how much longer
after failures.

* **`interval_le_nextWait`** — no wait is shorter than the interval.
* **`nextWait_success`** — a success brings the wait back to the interval.
-/

namespace Lookout.Fetch

/-- When a page's data is fetched again. The key names its place in the cache; without an upper bound
for the wait, failures do not make it longer. -/
structure Policy where
  key : String
  interval : Duration
  revalidateDelay : Duration
  timeout : Duration
  maxBackoff : Option Duration
deriving DecidableEq, Inhabited

namespace Policy

/-- How long a page shown from the cache waits before it asks for newer data. -/
def defaultRevalidateDelay : Duration := .ofMillis 100

/-- How long a fetch may take if nothing is set. -/
def defaultTimeout : Duration := .ofSecs 20

/-- The policy for a key and an interval with everything else at its default. -/
def every (key : String) (interval : Duration) : Policy where
  key := key
  interval := interval
  revalidateDelay := defaultRevalidateDelay
  timeout := defaultTimeout
  maxBackoff := none

/-- The wait before the next background fetch, given the last wait and whether the last fetch
succeeded. -/
def nextWait (p : Policy) (last : Duration) (succeeded : Bool) : Duration :=
  match p.maxBackoff, succeeded with
  | some most, false => (last.double.shorter most).longer p.interval
  | _, _ => p.interval

/-- No wait is shorter than the interval. -/
theorem interval_le_nextWait (p : Policy) (last : Duration) (succeeded : Bool) :
    p.interval ≤ p.nextWait last succeeded := by
  unfold nextWait
  split
  · exact Nat.le_max_right _ _
  · exact Nat.le_refl _

/-- A success brings the wait back to the interval. -/
theorem nextWait_success (p : Policy) (last : Duration) : p.nextWait last true = p.interval := by
  unfold nextWait
  split <;> simp_all

/-- The waits that follow a first one, one for each outcome. -/
def waits (p : Policy) : Duration → List Bool → List Duration
  | _, [] => []
  | last, succeeded :: rest =>
    let next := p.nextWait last succeeded
    next :: waits p next rest

end Policy

end Lookout.Fetch
