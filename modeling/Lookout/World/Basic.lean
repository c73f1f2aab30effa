import Lookout.Binding
import Lookout.Cache.Store
import Lookout.Fetch.Policy
import Lookout.Notification

/-!
# The world around the pages

The state in which pages live: the clock, the cache, the servers, the fetches under way and the timers
that start them. Fetches and timers that can go on wait in line; nothing goes on by itself between
two movements of the clock.

* **`wall_setWall`** — the calendar shows what it was set to.
-/

namespace Lookout

/-- An answer of the servers: after how many milliseconds it comes, and what it is. -/
structure Answer where
  delay : Nat
  result : Except Fetch.Failure Json

/-- The servers: the answer to the request to a path that has had so many requests before. -/
abbrev Servers := String → Nat → Answer

/-- A request that has been made, with its time. -/
structure AskedRequest where
  time : Nat
  method : Method
  path : String
  body : Option Json

/-- How far a fetch has come: it waits in line, or its end is known and comes at a time. -/
inductive JobStage
  | spawned
  | running (endsAt : Nat) (result : Except Fetch.Failure Json)

/-- A fetch for the binding of a number. -/
structure Job where
  id : Nat
  binding : Nat
  mode : Fetch.Mode
  policy : Fetch.Policy
  sections : List Section
  stage : JobStage

/-- A fetch that has begun, with its time. -/
structure BegunFetch where
  time : Nat
  job : Job

/-- A fetch that has ended, with its time and its outcome. -/
structure EndedFetch where
  time : Nat
  job : Job
  outcome : Fetch.Outcome

/-- What the timer of a binding does: it is new, it sleeps until the time of a fetch, it is about to spawn
the fetch, it waits for it to end, it has been told of the end, or it has stopped. A timer runs beside the
pages, and only rests when it sleeps or waits: one that is about to spawn a fetch can be aborted, and stops
only after that. -/
inductive TimerStage
  | fresh (warm : Bool)
  | sleeping (till : Nat) (mode : Fetch.QuietMode)
  | dispatching (mode : Fetch.QuietMode) (aborted : Bool)
  | awaiting (job : Nat) (mode : Fetch.QuietMode)
  | answered (mode : Fetch.QuietMode) (succeeded : Bool)
  | stopped
deriving DecidableEq

/-- The timer of a binding with the last wait between two of its fetches. -/
structure Timer where
  policy : Fetch.Policy
  sections : List Section
  wait : Duration
  stage : TimerStage

/-- Something that can go on. -/
inductive Task
  | job (id : Nat)
  | timer (binding : Nat)
deriving DecidableEq

/-- A binding with its timer. -/
structure Mounted where
  binding : Binding
  timer : Timer

/-- The state in which pages live. The clock counts milliseconds; the calendar is ahead of it by
`calendarOffset`. Requests and the fetches that have begun and ended are kept latest first. -/
structure World where
  now : Nat
  calendarOffset : Int
  space : String
  storage : Cache.Storage
  servers : Servers
  asked : List AskedRequest
  jobs : List Job
  nextJob : Nat
  begun : List BegunFetch
  ended : List EndedFetch
  mounted : List Mounted
  ready : List Task

namespace World

/-- A world at the start of its clock. -/
def start (calendar : Int) (space : String) (storage : Cache.Storage) (servers : Servers) : World where
  now := 0
  calendarOffset := calendar
  space := space
  storage := storage
  servers := servers
  asked := []
  jobs := []
  nextJob := 0
  begun := []
  ended := []
  mounted := []
  ready := []

/-- The time in milliseconds from 1 January 1970. -/
def wall (w : World) : Int := w.now + w.calendarOffset

/-- Sets the calendar. -/
def setWall (w : World) (time : Int) : World := { w with calendarOffset := time - w.now }

/-- The calendar shows what it was set to. -/
theorem wall_setWall (w : World) (time : Int) : (w.setWall time).wall = time := by
  simp only [wall, setWall]
  omega

/-- The cache entry for a key. -/
def read (w : World) (key : String) : Option Cache.Entry := Cache.read w.space w.storage key

/-- The binding of a number. -/
def binding? (w : World) (n : Nat) : Option Binding := (w.mounted[n]?).map (·.binding)

/-- Changes the mounted binding of a number. -/
def modify (w : World) (n : Nat) (f : Mounted → Mounted) : World :=
  { w with mounted := w.mounted.modify n f }

/-- How many requests a path has had. -/
def askedCount (w : World) (path : String) : Nat := w.asked.countP (·.path = path)

/-- A fetch joins the line. -/
def spawn (w : World) (binding : Nat) (mode : Fetch.Mode) (policy : Fetch.Policy)
    (sections : List Section) : World :=
  let job : Job := ⟨w.nextJob, binding, mode, policy, sections, .spawned⟩
  { w with jobs := w.jobs ++ [job], nextJob := w.nextJob + 1, ready := w.ready ++ [.job job.id] }

/-- Mounts a binding: it shows what the cache holds, or a first fetch joins the line. Its number is the
count of those mounted before. -/
def mount (w : World) (policy : Fetch.Policy) (sections : List Section) : World :=
  let n := w.mounted.length
  let cached := w.read policy.key
  let entry : Mounted :=
    { binding := .mounted policy.key cached
      timer := ⟨policy, sections, policy.interval, .fresh cached.isSome⟩ }
  let w := { w with mounted := w.mounted ++ [entry] }
  let w := if cached.isSome then w else w.spawn n .foreground policy sections
  { w with ready := w.ready ++ [.timer n] }

/-- The user asks for newer data. -/
def refresh (w : World) (n : Nat) : World :=
  match w.mounted[n]? with
  | none => w
  | some m =>
    if m.binding.isMounted then
      (w.modify n fun m => { m with binding := m.binding.refreshed }).spawn n .foreground
        m.timer.policy m.timer.sections
    else w

/-- Applies the outcomes that have arrived for a binding. -/
def poll (w : World) (n : Nat) : World :=
  w.modify n fun m => { m with binding := m.binding.poll }

/-- Applies the outcomes that have arrived for a binding and tells the user about the failures among
them. -/
def report (w : World) (n : Nat) (q : NotificationQueue) : World × NotificationQueue :=
  match w.binding? n with
  | some b => (w.poll n, b.announcements.foldl (fun q m => q.push m .error w.now w.wall) q)
  | none => (w, q)

/-- The timer is aborted: it stops where it rests. One that is about to spawn a fetch does so first, as it
rests next when it waits for the fetch, or for the one after it, since no wait takes no time. -/
def Timer.abort (t : Timer) : Timer :=
  match t.stage with
  | .dispatching mode _ => { t with stage := .dispatching mode true }
  | _ => { t with stage := .stopped }

@[simp] theorem Timer.policy_abort (t : Timer) : (Timer.abort t).policy = t.policy := by
  unfold Timer.abort
  split <;> rfl

@[simp] theorem Timer.sections_abort (t : Timer) : (Timer.abort t).sections = t.sections := by
  unfold Timer.abort
  split <;> rfl

/-- Unmounts a binding and aborts its timer. -/
def unmount (w : World) (n : Nat) : World :=
  w.modify n fun m => { binding := m.binding.unmount, timer := Timer.abort m.timer }

end World

end Lookout
