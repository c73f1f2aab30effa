import Lookout.Duration

/-!
# Notifications

Short messages to the user that leave by themselves after a while. The queue keeps them in the order in
which they came and gives each a number of its own.

* **`push_nextId`** — every notification takes the next number.
* **`push_items`** — every notification joins at the end.
* **`expire_stays`** — what stays after expiry is not due yet.
-/

namespace Lookout

/-- What a notification is about. -/
inductive NotificationKind
  | success
  | error
  | info
  | warning
deriving DecidableEq, Inhabited

/-- A message with its number, the time at which it was made, in milliseconds from 1 January 1970, and
the moment at which it leaves, in nanoseconds on the clock of the program. -/
structure Notification where
  id : Nat
  message : String
  kind : NotificationKind
  createdAt : Int
  expiresAt : Nat
deriving DecidableEq, Inhabited

/-- Notifications in the order in which they came, the time that they stay, and the next number. The
clock of the program counts seconds with 63 bits; `overrun` tells that a notification would have left
after its end. -/
structure NotificationQueue where
  items : List Notification
  stay : Duration
  nextId : Nat
  overrun : Bool
deriving Inhabited

namespace NotificationQueue

/-- A queue without notifications. -/
def new (stay : Duration) : NotificationQueue := ⟨[], stay, 1, false⟩

/-- The moment, in nanoseconds, that the clock of the program does not reach. -/
def endOfClock : Nat := 0x8000000000000000 * Duration.nanosPerSec

/-- Adds a notification that is made at `now`, in milliseconds on the clock of the program, where
`createdAt` is the same moment in the calendar. -/
def push (q : NotificationQueue) (message : String) (kind : NotificationKind) (now : Nat)
    (createdAt : Int) : NotificationQueue :=
  let expiresAt := now * Duration.nanosPerMilli + q.stay.nanos
  { q with
    items := q.items ++ [⟨q.nextId, message, kind, createdAt, expiresAt⟩]
    nextId := q.nextId + 1
    overrun := q.overrun || endOfClock ≤ expiresAt }

/-- Every notification takes the next number. -/
theorem push_nextId (q : NotificationQueue) (message : String) (kind : NotificationKind) (now : Nat)
    (createdAt : Int) : (q.push message kind now createdAt).nextId = q.nextId + 1 := rfl

/-- The queue has exactly one item more, at its end, of the kind and with the message given. -/
theorem push_items (q : NotificationQueue) (message : String) (kind : NotificationKind) (now : Nat)
    (createdAt : Int) : ∃ n : Notification, (q.push message kind now createdAt).items = q.items ++ [n] ∧
      n.id = q.nextId ∧ n.kind = kind ∧ n.message = message := ⟨_, rfl, rfl, rfl, rfl⟩

/-- The queue has a notification of a number. -/
def has (q : NotificationQueue) (id : Nat) : Bool := q.items.any (·.id = id)

/-- Removes the notification of a number. -/
def dismiss (q : NotificationQueue) (id : Nat) : NotificationQueue :=
  { q with items := q.items.filter (·.id ≠ id) }

/-- The notification is due at `now`, in milliseconds. -/
def isDue (now : Nat) (n : Notification) : Bool := n.expiresAt ≤ now * Duration.nanosPerMilli

/-- The numbers of the notifications that leave at `now`. -/
def due (q : NotificationQueue) (now : Nat) : List Nat := (q.items.filter (isDue now)).map (·.id)

/-- Removes the notifications that leave at `now`. -/
def expire (q : NotificationQueue) (now : Nat) : NotificationQueue :=
  { q with items := q.items.filter (!isDue now ·) }

/-- What stays after expiry is not due yet. -/
theorem expire_stays {q : NotificationQueue} {now : Nat} {n : Notification}
    (h : n ∈ (q.expire now).items) : isDue now n = false := by
  simpa [expire] using (List.mem_filter.1 h).2

/-- The notification that came last. -/
def latest? (q : NotificationQueue) : Option Notification := q.items.getLast?

end NotificationQueue

end Lookout
