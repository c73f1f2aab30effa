import Lookout.Fetch.Policy
import Mathlib.Algebra.Group.Nat.Defs
import Mathlib.Data.List.Infix

/-!
# Waiting longer after failures

The wait before a background fetch, given how the fetches before it ended. Without an upper bound it is
always the interval. With one it doubles with every failure in a row, up to the bound, but is never shorter
than the interval.

* **`nextWait_eq_exact`** — that doubling stops at the largest duration does not show in a wait.
* **`waitAfter_of_bound`** — the wait in terms of the failures since the last success.
* **`backoff_closed_form`** — what the wait is, its bounds, and that it grows while fetches fail.
-/

namespace Lookout

namespace Fetch.Policy

/-- The wait after fetches have ended, given which of them succeeded. The first wait is the interval. -/
def waitAfter (p : Policy) (outcomes : List Bool) : Duration := outcomes.foldl p.nextWait p.interval

/-- How many failures stand at the end of the outcomes. -/
def failureRun (outcomes : List Bool) : Nat :=
  (outcomes.reverse.takeWhile fun succeeded => !succeeded).length

/-- The interval doubled once for each of the last failures, at most the bound, at least the interval. After
a success or without a bound it is the interval. Nothing is rounded or cut off on the way. -/
def closedWait (p : Policy) (outcomes : List Bool) : Duration :=
  match p.maxBackoff with
  | none => p.interval
  | some most =>
    if outcomes.getLast? = some true then p.interval
    else p.interval.longer (.shorter ⟨p.interval.nanos * 2 ^ failureRun outcomes⟩ most)

/-- The next wait if durations had no largest one. -/
def exactNextWait (p : Policy) (last : Duration) (succeeded : Bool) : Duration :=
  match p.maxBackoff, succeeded with
  | some most, false => (Duration.shorter ⟨2 * last.nanos⟩ most).longer p.interval
  | _, _ => p.interval

variable {p : Policy}

/-! ## One step -/

/-- That doubling stops at the largest duration does not show: the bound is no larger. -/
theorem nextWait_eq_exact (kept : ∀ most ∈ p.maxBackoff, most ≤ .max) (last : Duration)
    (succeeded : Bool) : p.nextWait last succeeded = p.exactNextWait last succeeded := by
  unfold nextWait exactNextWait
  cases bound : p.maxBackoff with
  | none => rfl
  | some most =>
    cases succeeded with
    | true => rfl
    | false =>
      have hle : most.nanos ≤ Duration.max.nanos := kept most bound
      have hcut : last.double.shorter most = Duration.shorter ⟨2 * last.nanos⟩ most := by
        apply Duration.eq_of_nanos
        show min (min (2 * last.nanos) Duration.max.nanos) most.nanos = min (2 * last.nanos) most.nanos
        omega
      exact congrArg (Duration.longer · p.interval) hcut

theorem nextWait_of_no_bound (h : p.maxBackoff = none) (last : Duration) (succeeded : Bool) :
    p.nextWait last succeeded = p.interval := by
  simp only [nextWait, h]

/-! ## All fetches so far -/

theorem waitAfter_concat (p : Policy) (outcomes : List Bool) (succeeded : Bool) :
    p.waitAfter (outcomes ++ [succeeded]) = p.nextWait (p.waitAfter outcomes) succeeded := by
  rw [waitAfter, List.foldl_append]
  rfl

theorem failureRun_success (outcomes : List Bool) : failureRun (outcomes ++ [true]) = 0 := by
  simp [failureRun]

theorem failureRun_failure (outcomes : List Bool) :
    failureRun (outcomes ++ [false]) = failureRun outcomes + 1 := by
  simp [failureRun]

/-- The waits that follow the interval are those after each of the outcomes. -/
theorem waits_eq_map (p : Policy) (outcomes : List Bool) :
    p.waits p.interval outcomes = outcomes.inits.tail.map p.waitAfter := by
  have hfrom (last : Duration) : p.waits last outcomes =
      outcomes.inits.tail.map fun front => front.foldl p.nextWait last := by
    induction outcomes generalizing last with
    | nil => rfl
    | cons succeeded rest ih =>
      have hinits : rest.inits = [] :: rest.inits.tail := by cases rest <;> rfl
      rw [waits, ih, List.inits_cons, List.tail_cons, hinits]
      simp [Function.comp_def]
  exact hfrom p.interval

/-- The wait in terms of the failures since the last success: doubling and the two bounds may be put off to
the end. -/
theorem waitAfter_of_bound {most : Duration} (bound : p.maxBackoff = some most) (kept : most ≤ .max)
    (outcomes : List Bool) : p.waitAfter outcomes =
      p.interval.longer (.shorter ⟨p.interval.nanos * 2 ^ failureRun outcomes⟩ most) := by
  induction outcomes using List.reverseRecOn with
  | nil =>
    apply Duration.eq_of_nanos
    show p.interval.nanos = max p.interval.nanos (min (p.interval.nanos * 2 ^ 0) most.nanos)
    omega
  | append_singleton outcomes succeeded ih =>
    rw [waitAfter_concat]
    cases succeeded with
    | true =>
      rw [nextWait_success, failureRun_success]
      apply Duration.eq_of_nanos
      show p.interval.nanos = max p.interval.nanos (min (p.interval.nanos * 2 ^ 0) most.nanos)
      omega
    | false =>
      have hkept : ∀ m ∈ p.maxBackoff, m ≤ .max := by
        intro m hm
        obtain rfl : most = m := by simpa [bound] using hm
        exact kept
      -- The bounds of the wait before are no sharper than those that come after the doubling.
      have hgrown : p.interval.nanos ≤ p.interval.nanos * 2 ^ failureRun outcomes :=
        Nat.le_mul_of_pos_right _ (Nat.two_pow_pos _)
      rw [nextWait_eq_exact hkept, ih, failureRun_failure, Nat.pow_succ, ← Nat.mul_assoc]
      simp only [exactNextWait, bound]
      apply Duration.eq_of_nanos
      generalize p.interval.nanos * 2 ^ failureRun outcomes = grown at hgrown ⊢
      show max (min (2 * max p.interval.nanos (min grown most.nanos)) most.nanos) p.interval.nanos =
        max p.interval.nanos (min (grown * 2) most.nanos)
      omega

theorem waitAfter_of_no_bound (h : p.maxBackoff = none) (outcomes : List Bool) :
    p.waitAfter outcomes = p.interval := by
  induction outcomes using List.reverseRecOn with
  | nil => rfl
  | append_singleton outcomes succeeded _ => rw [waitAfter_concat, nextWait_of_no_bound h]

/-- After a success the wait is the interval. -/
theorem waitAfter_of_success {outcomes : List Bool} (h : outcomes.getLast? = some true) :
    p.waitAfter outcomes = p.interval := by
  obtain ⟨front, rfl⟩ := List.getLast?_eq_some_iff.1 h
  rw [waitAfter_concat, nextWait_success]

/-- No wait is shorter than the interval. -/
theorem interval_le_waitAfter (p : Policy) (outcomes : List Bool) :
    p.interval ≤ p.waitAfter outcomes := by
  induction outcomes using List.reverseRecOn with
  | nil => exact Nat.le_refl _
  | append_singleton outcomes succeeded _ =>
    rw [waitAfter_concat]
    exact interval_le_nextWait _ _ _

/-- One more failure never makes the wait shorter. -/
theorem waitAfter_le_failure (kept : ∀ most ∈ p.maxBackoff, most ≤ .max) (outcomes : List Bool) :
    p.waitAfter outcomes ≤ p.waitAfter (outcomes ++ [false]) := by
  cases bound : p.maxBackoff with
  | none => simp only [waitAfter_of_no_bound bound, Duration.le_iff, Nat.le_refl]
  | some most =>
    have hmost := kept most bound
    rw [waitAfter_of_bound bound hmost, waitAfter_of_bound bound hmost, failureRun_failure, Nat.pow_succ,
      ← Nat.mul_assoc, Duration.le_iff]
    generalize p.interval.nanos * 2 ^ failureRun outcomes = grown
    show max p.interval.nanos (min grown most.nanos) ≤
      max p.interval.nanos (min (grown * 2) most.nanos)
    omega

/-- What the wait is after any outcomes, and that a run without a largest duration would have the same waits.
A wait is never shorter than the interval nor longer than both it and the bound, and does not get shorter
while fetches fail. A bound that is set is a duration, so it is at most the largest one. -/
theorem backoff_closed_form (p : Policy) (kept : ∀ most ∈ p.maxBackoff, most ≤ .max)
    (outcomes : List Bool) :
    p.waits p.interval outcomes = outcomes.inits.tail.map p.waitAfter ∧
    p.waitAfter outcomes = p.closedWait outcomes ∧
    p.waitAfter outcomes = outcomes.foldl p.exactNextWait p.interval ∧
    p.interval ≤ p.waitAfter outcomes ∧
    (∀ most ∈ p.maxBackoff, p.waitAfter outcomes ≤ p.interval.longer most) ∧
    ∀ failures, p.waitAfter outcomes ≤ p.waitAfter (outcomes ++ List.replicate failures false) := by
  have hclosed : p.waitAfter outcomes = p.closedWait outcomes := by
    unfold closedWait
    split
    · next unbounded => exact waitAfter_of_no_bound unbounded outcomes
    · next most bound =>
      split
      · next success => exact waitAfter_of_success success
      · exact waitAfter_of_bound bound (kept most bound) outcomes
  have hexact : p.nextWait = p.exactNextWait := by
    funext last succeeded
    exact nextWait_eq_exact kept last succeeded
  refine ⟨waits_eq_map p outcomes, hclosed, ?_, interval_le_waitAfter p outcomes, ?_, ?_⟩
  · rw [waitAfter, hexact]
  · intro most bound
    rw [waitAfter_of_bound bound (kept most bound), Duration.le_iff]
    show max p.interval.nanos (min _ most.nanos) ≤ max p.interval.nanos most.nanos
    omega
  · intro failures
    induction failures with
    | zero => simp [Duration.le_iff]
    | succ n ih =>
      rw [List.replicate_succ', ← List.append_assoc]
      exact Nat.le_trans ih (waitAfter_le_failure kept _)

/-- A policy whose waits reach the largest duration: its interval is more than half of it. -/
def longestWaits : Policy :=
  { Policy.every "archive" (.ofSecs 0x8000000000000001) with maxBackoff := some .max }

/-- After a success and two failures the wait is the bound, exactly. -/
theorem longest_wait_reached : (∀ most ∈ longestWaits.maxBackoff, most ≤ .max) ∧
    longestWaits.closedWait [true, false, false] = .max ∧
    longestWaits.waitAfter [true, false, false] = longestWaits.closedWait [true, false, false] := by
  have hkept : ∀ most ∈ longestWaits.maxBackoff, most ≤ .max := by decide
  exact ⟨hkept, by decide, (backoff_closed_form longestWaits hkept _).2.1⟩

end Fetch.Policy

end Lookout
