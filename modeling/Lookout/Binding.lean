import Lookout.Fetch.Outcome
import Lookout.Text.Quoted

/-!
# Bindings

What a page knows of its data: the snapshot on display, the last failure and how many fetches the user
waits for. Outcomes wait until the page looks for them and are then applied in order.

* **`apply_ok`** — a success replaces the snapshot and clears the failure.
* **`unmount_unmount`** — unmounting twice is unmounting once.
-/

namespace Lookout

/-- The stages of a page's data: the first fetch is on its way, a snapshot is on display, nothing has
loaded and the last attempt failed, or the page is gone. -/
inductive BindingState
  | coldStart
  | loaded
  | errorVisible
  | terminal
deriving DecidableEq, Inhabited, Repr

/-- The name of a stage. -/
def BindingState.name : BindingState → String
  | .coldStart => "ColdStart"
  | .loaded => "Loaded"
  | .errorVisible => "ErrorVisible"
  | .terminal => "Terminal"

/-- What a page knows of its data. -/
structure Binding where
  key : String
  state : BindingState
  snapshot : Option Cache.Entry
  error : Option Fetch.Failure
  foregroundInFlight : Nat
  inbox : List Fetch.Outcome

namespace Binding

/-- The binding of a page when it is mounted, given what the cache holds. Without an entry a first fetch
is on its way. -/
def mounted (key : String) (cached : Option Cache.Entry) : Binding where
  key := key
  state := if cached.isSome then .loaded else .coldStart
  snapshot := cached
  error := none
  foregroundInFlight := if cached.isSome then 0 else 1
  inbox := []

/-- The page is still there. -/
def isMounted (b : Binding) : Bool := b.state ≠ .terminal

/-- A fetch that the user waits for has not been applied yet. -/
def isLoading (b : Binding) : Bool := b.isMounted && 0 < b.foregroundInFlight

/-- One more fetch that the user waits for. -/
def refreshed (b : Binding) : Binding :=
  { b with foregroundInFlight := b.foregroundInFlight + 1 }

/-- An outcome arrives; a page that is gone does not get it. -/
def receive (b : Binding) (o : Fetch.Outcome) : Binding :=
  if b.isMounted then { b with inbox := b.inbox ++ [o] } else b

/-- Applies an outcome. -/
def apply (b : Binding) (o : Fetch.Outcome) : Binding :=
  let b := if o.mode.showsLoading then
    { b with foregroundInFlight := b.foregroundInFlight - 1 } else b
  match o.result with
  | .ok entry => { b with snapshot := some entry, error := none, state := .loaded }
  | .error e =>
    let state := if b.snapshot.isNone && o.mode.showsLoading then .errorVisible else b.state
    { b with state := state, error := some e }

/-- What the user is told about an outcome. -/
def announcement? (b : Binding) (o : Fetch.Outcome) : Option String :=
  match o.result with
  | .error e =>
    if o.mode.notifiesFailure then some s!"Failed to load {b.key}: {e.message}" else none
  | .ok _ => none

/-- Applies all outcomes that have arrived. -/
def poll (b : Binding) : Binding := b.inbox.foldl apply { b with inbox := [] }

/-- What the user is told when the outcomes that have arrived are applied. -/
def announcements (b : Binding) : List String := b.inbox.filterMap b.announcement?

/-- The page goes away. -/
def unmount (b : Binding) : Binding := { b with state := .terminal, inbox := [] }

/-- A success replaces the snapshot and clears the failure. -/
theorem apply_ok (b : Binding) (mode : Fetch.Mode) (entry : Cache.Entry) :
    (b.apply ⟨mode, .ok entry⟩).snapshot = some entry ∧
      (b.apply ⟨mode, .ok entry⟩).error = none := ⟨rfl, rfl⟩

/-- Unmounting twice is unmounting once. -/
theorem unmount_unmount (b : Binding) : b.unmount.unmount = b.unmount := rfl

/-- The binding by its parts, for inspection. -/
def inspect (b : Binding) : String :=
  let error := match b.error with
    | none => "None"
    | some e => "Some(" ++ e.inspect ++ ")"
  "ResourceBinding \x7b key: " ++ Text.quote b.key ++ ", state: " ++ b.state.name ++
    ", foreground_in_flight: " ++ toString b.foregroundInFlight ++
    ", polling: " ++ (if b.isMounted then "true" else "false") ++ ", error: " ++ error ++ ", .. \x7d"

end Binding

end Lookout
