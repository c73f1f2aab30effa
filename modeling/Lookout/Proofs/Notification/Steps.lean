import Lookout.Notification
import Lookout.Proofs.Input.Bytes

/-!
# Notifications in steps that can fail

A notification takes a number, which has to fit into 64 bits, and leaves at a moment that the clock of the
program has to reach.

* **`pushChecked_eq`** — a notification is added in these steps unless it overruns the clock.
* **`pushErrorsChecked_eq`** — the same for several things that the user is told.
-/

namespace Lookout

open Checked

/-- The moment, in nanoseconds, that lies a while behind `now`, in milliseconds. -/
def Checked.later (now : Nat) (d : Duration) : Except Crash Nat :=
  let moment := now * Duration.nanosPerMilli + d.nanos
  if NotificationQueue.endOfClock ≤ moment then .error .clock else .ok moment

theorem Checked.later_eq {now : Nat} {d : Duration}
    (h : ¬ NotificationQueue.endOfClock ≤ now * Duration.nanosPerMilli + d.nanos) :
    later now d = .ok (now * Duration.nanosPerMilli + d.nanos) := if_neg h

theorem Checked.later_eq_error {now : Nat} {d : Duration}
    (h : NotificationQueue.endOfClock ≤ now * Duration.nanosPerMilli + d.nanos) :
    later now d = .error .clock := if_pos h

namespace NotificationQueue

/-- Adds a notification, in steps that can fail. -/
def pushChecked (q : NotificationQueue) (message : String) (kind : NotificationKind) (now : Nat)
    (createdAt : Int) : Except Crash NotificationQueue := do
  let nextId ← plus q.nextId 1
  let expiresAt ← later now q.stay
  .ok { q with
    items := q.items ++ [⟨q.nextId, message, kind, createdAt, expiresAt⟩]
    nextId := nextId }

/-- What is brought about with a queue, unless one of its notifications overruns the clock. -/
def inTime {α : Type} (q : NotificationQueue) (x : α) : Except Crash α :=
  if q.overrun then .error .clock else .ok x

theorem inTime_of_calm {α : Type} {q : NotificationQueue} (calm : q.overrun = false) (x : α) :
    q.inTime x = .ok x := by
  rw [inTime, calm]
  rfl

/-- A step that follows another one in time. -/
theorem inTime_bind {α β : Type} {q r : NotificationQueue} {x : α} {y : β} {f : α → Except Crash β}
    (kept : q.overrun = true → r.overrun = true) (step : q.overrun = false → f x = r.inTime y) :
    (q.inTime x >>= f) = r.inTime y := by
  cases h : q.overrun with
  | false => rw [inTime_of_calm h, ok_bind, step h]
  | true =>
    rw [inTime, inTime, h, kept h]
    rfl

theorem inTime_map {α β : Type} (q : NotificationQueue) (x : α) (f : α → β) :
    (q.inTime x).map f = q.inTime (f x) := by
  unfold inTime
  split <;> rfl

/-- To add a notification stops the program only if it overruns the clock. -/
theorem pushChecked_eq {q : NotificationQueue} (calm : q.overrun = false)
    (room : q.nextId + 1 < wordSize) (message : String) (kind : NotificationKind) (now : Nat)
    (createdAt : Int) : q.pushChecked message kind now createdAt =
      (q.push message kind now createdAt).inTime (q.push message kind now createdAt) := by
  by_cases hlate : endOfClock ≤ now * Duration.nanosPerMilli + q.stay.nanos
  · have hoverrun : (q.push message kind now createdAt).overrun = true := by
      simp only [push, hlate, decide_true, Bool.or_true]
    rw [pushChecked, plus_eq room, ok_bind, later_eq_error hlate, inTime, if_pos hoverrun]
    rfl
  · have hcalm : (q.push message kind now createdAt).overrun = false := by
      simp only [push, hlate, calm, decide_false, Bool.or_false]
    rw [pushChecked, plus_eq room, ok_bind, later_eq hlate, ok_bind, inTime_of_calm hcalm, push]
    simp only [hlate, decide_false, Bool.or_false]

/-- Tells the user several things. -/
def pushErrors (q : NotificationQueue) (now : Nat) (createdAt : Int) (messages : List String) :
    NotificationQueue := messages.foldl (fun q m => q.push m .error now createdAt) q

/-- Tells the user several things, in steps that can fail. -/
def pushErrorsChecked (q : NotificationQueue) (now : Nat) (createdAt : Int) (messages : List String) :
    Except Crash NotificationQueue :=
  messages.foldlM (fun q m => q.pushChecked m .error now createdAt) q

theorem overrun_push {q : NotificationQueue} (h : q.overrun = true) (message : String)
    (kind : NotificationKind) (now : Nat) (createdAt : Int) :
    (q.push message kind now createdAt).overrun = true := by
  simp only [push, h, Bool.true_or]

theorem overrun_pushErrors {q : NotificationQueue} (h : q.overrun = true) (now : Nat) (createdAt : Int)
    (messages : List String) : (q.pushErrors now createdAt messages).overrun = true := by
  induction messages generalizing q with
  | nil => exact h
  | cons m rest ih => exact ih (overrun_push h m .error now createdAt)

theorem pushErrorsChecked_eq {q : NotificationQueue} (calm : q.overrun = false) {messages : List String}
    (room : q.nextId + messages.length < wordSize) (now : Nat) (createdAt : Int) :
    q.pushErrorsChecked now createdAt messages =
      (q.pushErrors now createdAt messages).inTime (q.pushErrors now createdAt messages) := by
  induction messages generalizing q with
  | nil => exact (inTime_of_calm calm _).symm
  | cons m rest ih =>
    rw [List.length_cons] at room
    have hpush := pushChecked_eq calm (by omega) m .error now createdAt
    show (q.pushChecked m .error now createdAt >>= fun q => q.pushErrorsChecked now createdAt rest) = _
    rw [hpush]
    refine inTime_bind (fun h => overrun_pushErrors h now createdAt rest) fun hcalm => ?_
    refine ih hcalm ?_
    rw [push_nextId]
    omega

end NotificationQueue

end Lookout
