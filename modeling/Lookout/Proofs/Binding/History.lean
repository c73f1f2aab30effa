import Lookout.Binding
import Lookout.Notification

/-!
# The history of a binding

What has happened to a binding since it was mounted: the entry read at first, the refreshes, the
outcomes applied one after the other, and whether the page is gone. What the binding should show, count
and tell is a function of that.

* **`Shows.apply`** — applying an outcome extends the history by it.
* **`Shows.poll`** — applying the outcomes that have arrived extends the history by them.
-/

namespace Lookout

/-- The entry of an outcome that succeeded. -/
def Fetch.Outcome.success? (o : Fetch.Outcome) : Option Cache.Entry := o.result.toOption

/-- The failure of an outcome that failed. -/
def Fetch.Outcome.failure? (o : Fetch.Outcome) : Option Fetch.Failure :=
  match o.result with
  | .ok _ => none
  | .error e => some e

/-- The user waited for the outcome. -/
def Fetch.Outcome.isForeground (o : Fetch.Outcome) : Bool := o.mode = .foreground

/-- The number of outcomes that the user waited for. -/
def foregroundCount (os : List Fetch.Outcome) : Nat := os.countP (·.isForeground)

theorem Fetch.Outcome.isSome_failure? (o : Fetch.Outcome) : o.failure?.isSome = o.success?.isNone := by
  obtain ⟨mode, result⟩ := o
  cases result <;> rfl

theorem foregroundCount_append (os ps : List Fetch.Outcome) :
    foregroundCount (os ++ ps) = foregroundCount os + foregroundCount ps := List.countP_append

theorem foregroundCount_cons (o : Fetch.Outcome) (os : List Fetch.Outcome) :
    foregroundCount (o :: os) = foregroundCount [o] + foregroundCount os :=
  foregroundCount_append [o] os

/-- What has happened to a binding since it was mounted. -/
structure History where
  key : String
  cached : Option Cache.Entry
  refreshes : Nat
  applied : List Fetch.Outcome
  gone : Bool
  told : List (NotificationKind × String)

namespace History

/-- The entry of the last success, or else the entry read at first. -/
def snapshot (h : History) : Option Cache.Entry :=
  (h.applied.filterMap (·.success?)).getLast?.or h.cached

/-- The failure of the last outcome. -/
def error (h : History) : Option Fetch.Failure := h.applied.getLast?.bind (·.failure?)

/-- How many fetches the user has ever waited for: the first one without an entry, and one for each
refresh. -/
def asked (h : History) : Nat := (if h.cached.isNone then 1 else 0) + h.refreshes

/-- A fetch that the user waited for has failed. -/
def hasFailed (h : History) : Bool := h.applied.any fun o => o.isForeground && o.failure?.isSome

/-- The stage of the page's data. -/
def state (h : History) : BindingState :=
  if h.gone then .terminal
  else if h.snapshot.isSome then .loaded
  else if h.hasFailed then .errorVisible
  else .coldStart

/-- What the user is told about an outcome: failures of fetches that are not in the background. -/
def message? (key : String) (o : Fetch.Outcome) : Option (NotificationKind × String) :=
  match o.mode, o.failure? with
  | .foreground, some e | .revalidate, some e => some (.error, s!"Failed to load {key}: {e.message}")
  | _, _ => none

/-- What the user is told about all outcomes. -/
def messages (h : History) : List (NotificationKind × String) := h.applied.filterMap (message? h.key)

/-- More outcomes are applied. -/
def extend (h : History) (os : List Fetch.Outcome) : History := { h with applied := h.applied ++ os }

theorem state_eq_terminal_iff (h : History) : h.state = .terminal ↔ h.gone = true := by
  unfold state
  split
  · next hgone => simp [hgone]
  · next hgone =>
    split
    · simp [hgone]
    · split <;> simp [hgone]

theorem snapshot_extend (h : History) (o : Fetch.Outcome) :
    (h.extend [o]).snapshot = o.success?.or h.snapshot := by
  cases hsuccess : o.success? with
  | none => simp [snapshot, extend, hsuccess]
  | some entry => simp [snapshot, extend, hsuccess]

theorem error_extend (h : History) (o : Fetch.Outcome) : (h.extend [o]).error = o.failure? := by
  simp [error, extend]

theorem hasFailed_extend (h : History) (o : Fetch.Outcome) :
    (h.extend [o]).hasFailed = (h.hasFailed || (o.isForeground && o.failure?.isSome)) := by
  simp [hasFailed, extend]

end History

/-! ## What applying outcomes does -/

namespace Binding

theorem key_apply (b : Binding) (o : Fetch.Outcome) : (b.apply o).key = b.key := by
  obtain ⟨mode, result⟩ := o
  cases mode <;> cases result <;> rfl

theorem error_apply (b : Binding) (o : Fetch.Outcome) : (b.apply o).error = o.failure? := by
  obtain ⟨mode, result⟩ := o
  cases mode <;> cases result <;> rfl

theorem snapshot_apply (b : Binding) (o : Fetch.Outcome) :
    (b.apply o).snapshot = o.success?.or b.snapshot := by
  obtain ⟨mode, result⟩ := o
  cases mode <;> cases result <;> rfl

theorem state_apply (b : Binding) (o : Fetch.Outcome) :
    (b.apply o).state = if o.success?.isSome then .loaded
      else if b.snapshot.isNone && o.isForeground then .errorVisible else b.state := by
  obtain ⟨mode, result⟩ := o
  cases mode <;> cases result <;> rfl

theorem foregroundInFlight_apply (b : Binding) (o : Fetch.Outcome) :
    (b.apply o).foregroundInFlight = b.foregroundInFlight - foregroundCount [o] := by
  obtain ⟨mode, result⟩ := o
  cases mode <;> cases result <;> rfl

theorem inbox_apply (b : Binding) (o : Fetch.Outcome) : (b.apply o).inbox = b.inbox := by
  obtain ⟨mode, result⟩ := o
  cases mode <;> cases result <;> rfl

theorem foregroundInFlight_foldl (b : Binding) (os : List Fetch.Outcome) :
    (os.foldl apply b).foregroundInFlight = b.foregroundInFlight - foregroundCount os := by
  induction os generalizing b with
  | nil => rfl
  | cons o os ih =>
    rw [List.foldl_cons, ih, foregroundInFlight_apply, Nat.sub_sub, ← foregroundCount_cons]

theorem inbox_foldl (b : Binding) (os : List Fetch.Outcome) :
    (os.foldl apply b).inbox = b.inbox := by
  induction os generalizing b with
  | nil => rfl
  | cons o os ih => rw [List.foldl_cons, ih, inbox_apply]

end Binding

/-! ## What a binding shows -/

/-- What a binding shows is what its history says, and it counts the fetches that the user still waits
for. -/
structure Shows (b : Binding) (h : History) : Prop where
  key : b.key = h.key
  snapshot : b.snapshot = h.snapshot
  error : b.error = h.error
  state : b.state = h.state
  count : b.foregroundInFlight + foregroundCount h.applied = h.asked

namespace Shows

variable {b : Binding} {h : History}

theorem isMounted (s : Shows b h) : b.isMounted = !h.gone := by
  have hiff := History.state_eq_terminal_iff h
  rw [← s.state] at hiff
  cases hgone : h.gone <;> simp_all [Binding.isMounted]

theorem mounted (key : String) (cached : Option Cache.Entry) :
    Shows (.mounted key cached) ⟨key, cached, 0, [], false, []⟩ := by
  constructor
  · rfl
  · rfl
  · rfl
  · cases cached <;> rfl
  · cases cached <;> rfl

theorem refreshed (s : Shows b h) : Shows b.refreshed { h with refreshes := h.refreshes + 1 } := by
  constructor
  · exact s.key
  · exact s.snapshot
  · exact s.error
  · exact s.state
  · have hcount := s.count
    simp only [Binding.refreshed, History.asked] at hcount ⊢
    omega

theorem unmount (s : Shows b h) : Shows b.unmount { h with gone := true } := by
  constructor
  · exact s.key
  · exact s.snapshot
  · exact s.error
  · rfl
  · exact s.count

/-- The inbox is not shown. -/
theorem inbox (s : Shows b h) (os : List Fetch.Outcome) : Shows { b with inbox := os } h :=
  ⟨s.key, s.snapshot, s.error, s.state, s.count⟩

/-- Applying an outcome extends the history by it, as long as the binding counts the fetch that the
outcome is of. -/
theorem apply (s : Shows b h) (live : h.gone = false) (o : Fetch.Outcome)
    (counted : foregroundCount [o] ≤ b.foregroundInFlight) : Shows (b.apply o) (h.extend [o]) := by
  constructor
  · exact (b.key_apply o).trans s.key
  · rw [Binding.snapshot_apply, History.snapshot_extend, s.snapshot]
  · rw [Binding.error_apply, History.error_extend]
  · have hlive : (h.extend [o]).gone = false := live
    rw [Binding.state_apply, s.state, s.snapshot]
    simp only [History.state, hlive, live, History.snapshot_extend, History.hasFailed_extend,
      Fetch.Outcome.isSome_failure?]
    cases o.success? <;> cases h.snapshot <;> cases h.hasFailed <;> cases o.isForeground <;> rfl
  · have hcount := s.count
    have hasked : (h.extend [o]).asked = h.asked := rfl
    rw [Binding.foregroundInFlight_apply, hasked, History.extend, foregroundCount_append]
    omega

theorem foldl (s : Shows b h) (live : h.gone = false) (os : List Fetch.Outcome)
    (counted : foregroundCount os ≤ b.foregroundInFlight) :
    Shows (os.foldl Binding.apply b) (h.extend os) := by
  induction os generalizing b h with
  | nil => simpa [History.extend] using s
  | cons o os ih =>
    rw [foregroundCount_cons] at counted
    have hone := s.apply live o (by omega)
    have hrest := ih hone live (by rw [Binding.foregroundInFlight_apply]; omega)
    simpa [History.extend] using hrest

/-- Applying the outcomes that have arrived extends the history by them. -/
theorem poll (s : Shows b h) (live : h.gone = false)
    (counted : foregroundCount b.inbox ≤ b.foregroundInFlight) :
    Shows b.poll (h.extend b.inbox) := (s.inbox []).foldl live b.inbox counted

theorem message?_eq (s : Shows b h) (o : Fetch.Outcome) :
    (b.announcement? o).map (NotificationKind.error, ·) = History.message? h.key o := by
  rw [← s.key]
  obtain ⟨mode, result⟩ := o
  cases mode <;> cases result <;> rfl

end Shows

end Lookout
