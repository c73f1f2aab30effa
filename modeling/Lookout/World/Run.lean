import Lookout.World.Basic

/-!
# Movements of the clock

How fetches and timers go on. A fetch asks all its sections at once, and what becomes of it is known
then: it ends with the last answer, or when its time is up. A success is written to the cache and then
told to the binding. A timer spawns fetches and waits for each to end before it sleeps again.

* **`settle_now`** — what goes on at one moment takes no time.
-/

namespace Lookout

namespace World

/-! ## Sleeping -/

/-- A sleep that would end after the clock ends instead after thirty years. -/
def longestSleep : Nat := 30 * 365 * 86400 * 1000

/-- The time at which a sleep ends, in milliseconds. The timers of the program count those with 64 bits: a
sleep whose end is 2 ^ 64 milliseconds or more away, some 580 million years, would end at the last number that
they have, and goes on here. -/
def sleepEnd (now : Nat) (d : Duration) : Nat :=
  if 0x8000000000000000 ≤ now / 1000 + d.secs then now + longestSleep else now + d.ceilMillis

/-! ## Fetches -/

/-- The request that a section makes. -/
def askedOf (time : Nat) (s : Section) : AskedRequest := ⟨time, s.method, s.path, s.body⟩

/-- Asks sections one after the other at the same moment. -/
def ask (w : World) : List Section → World × List (Section × Answer)
  | [] => (w, [])
  | s :: rest =>
    let answer := w.servers s.path (w.askedCount s.path)
    let (w, answers) := ask { w with asked := askedOf w.now s :: w.asked } rest
    (w, (s, answer) :: answers)

/-- The longest delay among answers. -/
def longestDelay (answers : List (Section × Answer)) : Nat :=
  answers.foldl (fun most a => Nat.max most a.2.delay) 0

/-- When a fetch ends and how: with the last answer, unless its time is up before. -/
def ending (now : Nat) (policy : Fetch.Policy) (previous : Option Json)
    (answers : List (Section × Answer)) : Nat × Except Fetch.Failure Json :=
  let last := now + longestDelay answers
  let limit := sleepEnd now policy.timeout
  if last ≤ limit then (last, Fetch.merge previous (answers.map fun a => (a.1, a.2.result)))
  else (limit, .error (.timeout policy.timeout))

/-- Hands the outcome of a fetch to its binding. -/
def deliver (w : World) (job : Job) (o : Fetch.Outcome) : World :=
  { w with ended := ⟨w.now, job, o⟩ :: w.ended }.modify job.binding fun m =>
    { m with binding := m.binding.receive o }

/-- Tells a timer that waits for a fetch how it ended. -/
def Timer.hear (job : Nat) (succeeded : Bool) (t : Timer) : Timer :=
  match t.stage with
  | .awaiting id mode => if id = job then { t with stage := .answered mode succeeded } else t
  | _ => t

/-- The timer waits for a fetch. -/
def Timer.awaits (job : Nat) (t : Timer) : Bool :=
  match t.stage with
  | .awaiting id _ => id = job
  | _ => false

/-- The timer of the binding joins the line if it waits for the fetch. -/
def wakeTimer (w : World) (job : Job) (succeeded : Bool) : World :=
  match w.mounted[job.binding]? with
  | some m =>
    if Timer.awaits job.id m.timer then
      let w := w.modify job.binding fun m => { m with timer := Timer.hear job.id succeeded m.timer }
      { w with ready := w.ready ++ [.timer job.binding] }
    else w
  | none => w

/-- Ends a fetch: data is written to the cache and told to the binding, a failure is only told. -/
def finish (w : World) (job : Job) (result : Except Fetch.Failure Json) : World :=
  let w := { w with jobs := w.jobs.filter (·.id ≠ job.id) }
  match result with
  | .ok payload =>
    let (storage, entry) := Cache.write w.space w.storage job.policy.key payload w.wall
    ({ w with storage := storage }.deliver job ⟨job.mode, .ok entry⟩).wakeTimer job true
  | .error e => (w.deliver job ⟨job.mode, .error e⟩).wakeTimer job false

/-- The fetch is under way; its end is known. -/
def setRunning (w : World) (job : Job) (endsAt : Nat) (result : Except Fetch.Failure Json) : World :=
  { w with jobs := w.jobs.map fun j =>
      if j.id = job.id then { j with stage := .running endsAt result } else j }

/-- A fetch begins: it reads what the cache holds and asks its sections, and it is known then when it
ends and how. -/
def beginFetch (w : World) (job : Job) : World × Nat × Except Fetch.Failure Json :=
  let previous := (w.read job.policy.key).map (·.payload)
  let (w, answers) := { w with begun := ⟨w.now, job⟩ :: w.begun }.ask job.sections
  (w, ending w.now job.policy previous answers)

/-- A fetch goes on. -/
def runJob (w : World) (job : Job) : World :=
  match job.stage with
  | .spawned =>
    let (w, endsAt, result) := w.beginFetch job
    if endsAt ≤ w.now then w.finish job result else w.setRunning job endsAt result
  | .running endsAt result => if endsAt ≤ w.now then w.finish job result else w

/-! ## Timers -/

/-- A timer that does not rest goes on before what else stands in line. -/
def hurry (w : World) (n : Nat) : World := { w with ready := .timer n :: w.ready }

/-- The sleep of the timer is over, and it is about to spawn a fetch. It does not rest before that, but other
tasks and the pages run beside it. -/
def setOut (w : World) (n : Nat) (t : Timer) (mode : Fetch.QuietMode) : World :=
  (w.modify n fun m => { m with timer := { t with stage := .dispatching mode false } }).hurry n

/-- What a timer does once it has spawned a fetch: it waits for it, or stops if it has been aborted. -/
def dispatched (job : Nat) (mode : Fetch.QuietMode) (aborted : Bool) : TimerStage :=
  if aborted then .stopped else .awaiting job mode

/-- The timer spawns a fetch and rests. -/
def dispatch (w : World) (n : Nat) (t : Timer) (mode : Fetch.QuietMode) (aborted : Bool) : World :=
  (w.modify n fun m => { m with timer := { t with stage := dispatched w.nextJob mode aborted } }).spawn n
    mode t.policy t.sections

/-- The timer sleeps for a while and sets out to spawn a fetch then. -/
def sleepThen (w : World) (n : Nat) (t : Timer) (d : Duration) (mode : Fetch.QuietMode) : World :=
  let till := sleepEnd w.now d
  if till ≤ w.now then w.setOut n t mode
  else w.modify n fun m => { m with timer := { t with stage := .sleeping till mode } }

/-- The wait after a fetch: the interval after the first check, and what the policy says after the
others. -/
def waitAfter (t : Timer) (mode : Fetch.QuietMode) (succeeded : Bool) : Duration :=
  if mode = .background then t.policy.nextWait t.wait succeeded else t.policy.interval

/-- A timer goes on. -/
def runTimer (w : World) (n : Nat) (t : Timer) : World :=
  match t.stage with
  | .fresh true => w.sleepThen n t t.policy.revalidateDelay .revalidate
  | .fresh false => w.sleepThen n t t.wait .background
  | .sleeping till mode => if till ≤ w.now then w.setOut n t mode else w
  | .dispatching mode aborted => w.dispatch n t mode aborted
  | .answered mode succeeded =>
    let wait := waitAfter t mode succeeded
    w.sleepThen n { t with wait := wait } wait .background
  | .awaiting _ _ | .stopped => w

/-! ## Moments -/

/-- Something in line goes on. -/
def runTask (w : World) : Task → World
  | .job id =>
    match w.jobs.find? (·.id = id) with
    | some job => w.runJob job
    | none => w
  | .timer n =>
    match w.mounted[n]? with
    | some m => w.runTimer n m.timer
    | none => w

/-- Everything in line goes on, in order, and what joins the line meanwhile too. -/
def settle : Nat → World → World
  | 0, w => w
  | fuel + 1, w =>
    match w.ready with
    | [] => w
    | task :: rest => settle fuel ({ w with ready := rest }.runTask task)

/-- How many turns all that goes on at one moment can take. -/
def turns (w : World) : Nat := 8 * (w.ready.length + w.jobs.length + w.mounted.length + 1)

/-- Lets everything go on that can at this moment. -/
def settled (w : World) : World := settle w.turns w

/-- When a fetch or a timer goes on by itself. -/
def dueTimes (w : World) : List Nat :=
  (w.jobs.filterMap fun j =>
    match j.stage with
    | .running endsAt _ => some endsAt
    | .spawned => none) ++
  w.mounted.filterMap fun m =>
    match m.timer.stage with
    | .sleeping till _ => some till
    | _ => none

/-- The next time at which something goes on by itself. -/
def nextDue? (w : World) : Option Nat := w.dueTimes.min?

/-- What goes on at a time joins the line. -/
def wake (w : World) (time : Nat) : World :=
  let jobs := w.jobs.filterMap fun j =>
    match j.stage with
    | .running endsAt _ => if endsAt ≤ time then some (Task.job j.id) else none
    | .spawned => none
  let timers := w.mounted.mapIdx fun n m =>
    match m.timer.stage with
    | .sleeping till _ => if till ≤ time then some (Task.timer n) else none
    | _ => none
  { w with now := time, ready := w.ready ++ jobs ++ timers.filterMap id }

/-- Moves the clock to a time, stopping wherever something goes on. -/
def advanceTo : Nat → Nat → World → World
  | 0, target, w => { w with now := target }
  | fuel + 1, target, w =>
    let w := w.settled
    match w.nextDue? with
    | some time => if time ≤ target then advanceTo fuel target (w.wake time) else { w with now := target }
    | none => { w with now := target }

/-- Moves the clock by a number of milliseconds. -/
def advance (w : World) (millis : Nat) : World := advanceTo (millis + 2) (w.now + millis) w

/-! ## Time does not pass at one moment -/

@[simp] theorem modify_now (w : World) (n : Nat) (f : Mounted → Mounted) :
    (w.modify n f).now = w.now := rfl

@[simp] theorem spawn_now (w : World) (n : Nat) (mode : Fetch.Mode) (p : Fetch.Policy)
    (sections : List Section) : (w.spawn n mode p sections).now = w.now := rfl

@[simp] theorem setRunning_now (w : World) (job : Job) (endsAt : Nat)
    (result : Except Fetch.Failure Json) : (w.setRunning job endsAt result).now = w.now := rfl

@[simp] theorem ask_now (w : World) (sections : List Section) : (w.ask sections).1.now = w.now := by
  induction sections generalizing w with
  | nil => rfl
  | cons s rest ih => simp [ask, ih]

@[simp] theorem wakeTimer_now (w : World) (job : Job) (succeeded : Bool) :
    (w.wakeTimer job succeeded).now = w.now := by
  unfold wakeTimer
  split
  · split <;> simp
  · rfl

@[simp] theorem finish_now (w : World) (job : Job) (result : Except Fetch.Failure Json) :
    (w.finish job result).now = w.now := by
  unfold finish
  split <;> simp [deliver]

@[simp] theorem beginFetch_now (w : World) (job : Job) : (w.beginFetch job).1.now = w.now := by
  simp [beginFetch]

theorem runJob_now (w : World) (job : Job) : (w.runJob job).now = w.now := by
  unfold runJob
  split
  · dsimp only
    split <;> simp
  · split <;> simp

@[simp] theorem setOut_now (w : World) (n : Nat) (t : Timer) (mode : Fetch.QuietMode) :
    (w.setOut n t mode).now = w.now := rfl

@[simp] theorem dispatch_now (w : World) (n : Nat) (t : Timer) (mode : Fetch.QuietMode) (aborted : Bool) :
    (w.dispatch n t mode aborted).now = w.now := rfl

theorem sleepThen_now (w : World) (n : Nat) (t : Timer) (d : Duration) (mode : Fetch.QuietMode) :
    (w.sleepThen n t d mode).now = w.now := by
  unfold sleepThen
  simp only
  split <;> simp

theorem runTask_now (w : World) (task : Task) : (w.runTask task).now = w.now := by
  cases task with
  | job id =>
    simp only [runTask]
    split
    · exact runJob_now _ _
    · rfl
  | timer n =>
    simp only [runTask]
    split
    · unfold runTimer
      split
      · exact sleepThen_now ..
      · exact sleepThen_now ..
      · split <;> simp
      · simp
      · exact sleepThen_now ..
      · rfl
      · rfl
    · rfl

/-- What goes on at one moment takes no time. -/
theorem settle_now (fuel : Nat) (w : World) : (settle fuel w).now = w.now := by
  induction fuel generalizing w with
  | zero => rfl
  | succ fuel ih =>
    unfold settle
    split
    · rfl
    · rw [ih, runTask_now]

end World

end Lookout
