import Lookout.Proofs.World.Course

/-!
# What a move does to timers and fetches

The books of a world are its timers and its fetches: those under way, those that have begun with the
requests that they made, and those that have ended. A move does one thing to the books, if anything: a
page comes or goes, a refresh or a timer puts a fetch in line, a timer goes to sleep or its sleep is over,
or a fetch begins, ends, or does both at once.

* **`runTimer_eq`** — a timer that goes on spawns a fetch, sets out to spawn one or goes to sleep.
* **`books_finish`** — what the end of a fetch does to the books.
* **`effect_move`** — what a move does to the books.
-/

namespace Lookout

/-- The requests that a fetch makes when it begins, latest first. -/
def BegunFetch.requests (f : BegunFetch) : List AskedRequest :=
  (f.job.sections.map (World.askedOf f.time)).reverse

/-- The move mounts or unmounts a binding. -/
def Move.comesOrGoes : Move → Bool
  | .mount _ _ | .unmount _ => true
  | _ => false

namespace World

/-! ## Timers -/

/-- The timers of the bindings by their numbers. -/
def timers (w : World) : List Timer := w.mounted.map (·.timer)

theorem getElem?_timers {w : World} {n : Nat} {m : Mounted} (h : w.mounted[n]? = some m) :
    w.timers[n]? = some m.timer := by
  rw [timers, List.getElem?_map, h]
  rfl

@[simp] theorem length_timers (w : World) : w.timers.length = w.mounted.length := by
  simp [timers]

/-- A timer is that of a mounted binding. -/
theorem exists_of_timers {w : World} {n : Nat} {t : Timer} (h : w.timers[n]? = some t) :
    ∃ m, w.mounted[n]? = some m ∧ m.timer = t := by
  rw [timers, List.getElem?_map] at h
  exact Option.map_eq_some_iff.1 h

/-- Changing a timer changes it among the timers. -/
theorem timers_modify {w : World} {n : Nat} {f : Mounted → Mounted} {g : Timer → Timer}
    (h : ∀ m, (f m).timer = g m.timer) : (w.modify n f).timers = w.timers.modify n g := by
  apply List.ext_getElem?
  intro i
  simp only [timers, modify, List.getElem?_map, List.getElem?_modify]
  by_cases hi : n = i
  · simp [hi, h, Function.comp_def]
  · simp [hi]

/-- Changing a binding leaves the timers alone. -/
theorem timers_modify_binding (w : World) (n : Nat) (f : Mounted → Binding) :
    (w.modify n fun m => { m with binding := f m }).timers = w.timers := by
  have h : (w.modify n fun m => { m with binding := f m }).timers = w.timers.modify n id :=
    timers_modify fun _ => rfl
  rw [h, List.modify_id]

/-- Two changes that do the same to one element of a list. -/
theorem modify_congr {α : Type} {l : List α} {n : Nat} {a : α} (h : l[n]? = some a) {f g : α → α}
    (same : f a = g a) : l.modify n f = l.modify n g := by
  apply List.ext_getElem?
  intro i
  rw [List.getElem?_modify, List.getElem?_modify]
  by_cases hi : n = i
  · subst hi
    simp [h, same]
  · simp [hi]

theorem modify_eq_self {w : World} {n : Nat} {m : Mounted} (h : w.mounted[n]? = some m)
    {f : Mounted → Mounted} (fixed : f m = m) : w.modify n f = w := by
  have hmounted : w.mounted.modify n f = w.mounted.modify n id := modify_congr h fixed
  rw [modify, hmounted, List.modify_id]

/-- What a timer that goes on aims at: the timer with the wait that it counts from now on, when it fetches
next, and why. A timer that is about to spawn a fetch, waits for one to end, or has stopped aims at nothing
more. -/
def Timer.aim? (now : Nat) (t : Timer) : Option (Timer × Nat × Fetch.QuietMode) :=
  match t.stage with
  | .fresh true => some (t, sleepEnd now t.policy.revalidateDelay, .revalidate)
  | .fresh false => some (t, sleepEnd now t.wait, .background)
  | .sleeping till mode => some (t, till, mode)
  | .answered mode succeeded =>
    let wait := waitAfter t mode succeeded
    some ({ t with wait := wait }, sleepEnd now wait, .background)
  | .dispatching _ _ | .awaiting _ _ | .stopped => none

theorem Timer.same_of_aim? {now : Nat} {t t' : Timer} {till : Nat} {mode : Fetch.QuietMode}
    (h : Timer.aim? now t = some (t', till, mode)) : Timer.Same t' t := by
  unfold Timer.aim? at h
  split at h <;> cases h <;> exact ⟨rfl, rfl⟩

/-- The timer has been aborted: it has stopped, or it stops once it has spawned a fetch. -/
def Timer.IsAborted (t : Timer) : Prop := t.stage = .stopped ∨ ∃ mode, t.stage = .dispatching mode true

theorem Timer.isAborted_abort (t : Timer) : Timer.IsAborted (Timer.abort t) := by
  unfold Timer.abort
  split
  · exact .inr ⟨_, rfl⟩
  · exact .inl rfl

/-- A timer that has been aborted aims at nothing any more. -/
theorem Timer.aim?_of_isAborted {t : Timer} (h : Timer.IsAborted t) (now : Nat) :
    Timer.aim? now t = none := by
  rcases h with h | ⟨mode, h⟩ <;> simp only [Timer.aim?, h]

/-- A timer that has been aborted hears of no fetch any more. -/
theorem Timer.hear_of_isAborted {t : Timer} (h : Timer.IsAborted t) (id : Nat) (succeeded : Bool) :
    Timer.hear id succeeded t = t := by
  rcases h with h | ⟨mode, h⟩ <;> simp only [Timer.hear, h]

/-- A timer that goes on spawns the fetch that it is about to spawn. Otherwise it sets out to spawn one if
the time that it aims at has come, and sleeps until then if not. -/
theorem runTimer_eq {w : World} {n : Nat} {m : Mounted} (h : w.mounted[n]? = some m) :
    w.runTimer n m.timer =
      match m.timer.stage with
      | .dispatching mode aborted => w.dispatch n m.timer mode aborted
      | _ =>
        match Timer.aim? w.now m.timer with
        | none => w
        | some (t, till, mode) =>
          if till ≤ w.now then w.setOut n t mode
          else w.modify n fun m => { m with timer := { t with stage := .sleeping till mode } } := by
  obtain ⟨binding, policy, sections, wait, stage⟩ := m
  cases stage with
  | fresh warm => cases warm <;> rfl
  | dispatching mode aborted => rfl
  | answered mode succeeded => rfl
  | awaiting id mode => rfl
  | stopped => rfl
  | sleeping till mode =>
    simp only [runTimer, Timer.aim?]
    split
    · rfl
    · -- It sleeps already.
      exact (modify_eq_self h rfl).symm

/-- A timer that does not wait for a fetch does not hear of its end. -/
theorem Timer.hear_of_not_awaits {t : Timer} {id : Nat} (h : Timer.awaits id t = false)
    (succeeded : Bool) : Timer.hear id succeeded t = t := by
  unfold Timer.awaits at h
  unfold Timer.hear
  split
  · next id' mode hstage =>
    rw [hstage] at h
    rw [if_neg (by simpa using h)]
  · rfl

theorem timers_wakeTimer (w : World) (job : Job) (succeeded : Bool) :
    (w.wakeTimer job succeeded).timers =
      w.timers.modify job.binding (Timer.hear job.id succeeded) := by
  unfold wakeTimer
  split
  · next m hm =>
    split
    · exact timers_modify fun _ => rfl
    · next hdeaf =>
      have hfixed : Timer.hear job.id succeeded m.timer = m.timer :=
        Timer.hear_of_not_awaits (by simpa using hdeaf) succeeded
      have hself : w.modify job.binding
          (fun m => { m with timer := Timer.hear job.id succeeded m.timer }) = w :=
        modify_eq_self hm (by simp only [hfixed])
      have htimers : (w.modify job.binding
          fun m => { m with timer := Timer.hear job.id succeeded m.timer }).timers =
            w.timers.modify job.binding (Timer.hear job.id succeeded) := timers_modify fun _ => rfl
      rw [← htimers, hself]
  · next hnone =>
    have hlength : w.timers.length ≤ job.binding := by simpa using hnone
    rw [List.modify_eq_self hlength]

/-- The timer of a binding hears of the end of a fetch for it. -/
theorem timers_finish (w : World) (job : Job) (result : Except Fetch.Failure Json) :
    (w.finish job result).timers = w.timers.modify job.binding (Timer.hear job.id result.isOk) := by
  cases result with
  | ok payload =>
    refine (timers_wakeTimer _ job true).trans ?_
    exact congrArg (List.modify · _ _) (timers_modify_binding _ _ _)
  | error e =>
    refine (timers_wakeTimer _ job false).trans ?_
    exact congrArg (List.modify · _ _) (timers_modify_binding _ _ _)

/-! ## Requests -/

theorem asked_ask (w : World) (sections : List Section) :
    (w.ask sections).1.asked = (sections.map (askedOf w.now)).reverse ++ w.asked := by
  induction sections generalizing w with
  | nil => rfl
  | cons s rest ih => simp [ask, ih]

/-- A fetch that begins is noted with its requests; nothing else changes. -/
theorem beginFetch_fst (w : World) (job : Job) : (w.beginFetch job).1 =
    { w with
      begun := ⟨w.now, job⟩ :: w.begun
      asked := BegunFetch.requests ⟨w.now, job⟩ ++ w.asked } := by
  obtain ⟨asked, hbegin⟩ := beginFetch_eq w job
  have hasked : (w.beginFetch job).1.asked = BegunFetch.requests ⟨w.now, job⟩ ++ w.asked :=
    asked_ask { w with begun := ⟨w.now, job⟩ :: w.begun } job.sections
  rw [hbegin] at hasked
  rw [hbegin, ← hasked]

/-! ## The books -/

/-- The books of a world: the timers of its bindings, its fetches under way, the requests that have been
made, and the fetches that have begun and ended, latest first. -/
structure Books where
  timers : List Timer
  jobs : List Job
  asked : List AskedRequest
  begun : List BegunFetch
  ended : List EndedFetch

/-- The books of the world. -/
def books (w : World) : Books := ⟨w.timers, w.jobs, w.asked, w.begun, w.ended⟩

/-- The books once a fetch has been noted as begun, with its requests. -/
def Books.begin (b : Books) (f : BegunFetch) : Books :=
  { b with asked := f.requests ++ b.asked, begun := f :: b.begun }

/-- The books once a fetch has been noted as ended and the timer of its binding has heard of it. -/
def Books.finish (b : Books) (x : EndedFetch) (succeeded : Bool) : Books :=
  { b with
    timers := b.timers.modify x.job.binding (Timer.hear x.job.id succeeded)
    jobs := b.jobs.filter (·.id ≠ x.job.id)
    ended := x :: b.ended }

/-- What a move does to the books. -/
inductive Effect (w : World) : Move → Books → Prop
  | rests {m : Move} (stays : m.comesOrGoes = false) : Effect w m w.books
  | mounts (policy : Fetch.Policy) (sections : List Section) : Effect w (.mount policy sections)
      { w.books with
        timers := w.timers ++
          [⟨policy, sections, policy.interval, .fresh (w.read policy.key).isSome⟩]
        jobs := w.jobs ++ if (w.read policy.key).isSome then [] else
          [⟨w.nextJob, w.mounted.length, .foreground, policy, sections, .spawned⟩] }
  | refreshes {n : Nat} {m : Mounted} (there : w.mounted[n]? = some m)
      (live : m.binding.isMounted = true) : Effect w (.refresh n)
      { w.books with
        jobs := w.jobs ++
          [⟨w.nextJob, n, .foreground, m.timer.policy, m.timer.sections, .spawned⟩] }
  | unmounts (n : Nat) : Effect w (.unmount n)
      { w.books with timers := w.timers.modify n Timer.abort }
  | sleeps {n : Nat} {t t' : Timer} {till : Nat} {mode : Fetch.QuietMode}
      (there : w.timers[n]? = some t) (aim : Timer.aim? w.now t = some (t', till, mode))
      (early : w.now < till) : Effect w (.goOn (.timer n))
      { w.books with timers := w.timers.modify n fun _ => { t' with stage := .sleeping till mode } }
  | setsOut {n : Nat} {t t' : Timer} {till : Nat} {mode : Fetch.QuietMode}
      (there : w.timers[n]? = some t) (aim : Timer.aim? w.now t = some (t', till, mode))
      (due : till ≤ w.now) : Effect w (.goOn (.timer n))
      { w.books with timers := w.timers.modify n fun _ => { t' with stage := .dispatching mode false } }
  | fetches {n : Nat} {t : Timer} {mode : Fetch.QuietMode} {aborted : Bool}
      (there : w.timers[n]? = some t) (stage : t.stage = .dispatching mode aborted) :
      Effect w (.goOn (.timer n))
      { w.books with
        timers := w.timers.modify n fun _ => { t with stage := dispatched w.nextJob mode aborted }
        jobs := w.jobs ++ [⟨w.nextJob, n, mode, t.policy, t.sections, .spawned⟩] }
  | begins {job : Job} (waits : job ∈ w.jobs) (fresh : job.stage = .spawned) {endsAt : Nat}
      {result : Except Fetch.Failure Json} (course : (w.beginFetch job).2 = (endsAt, result))
      (early : w.now < endsAt) : Effect w (.goOn (.job job.id))
      { w.books.begin ⟨w.now, job⟩ with jobs := (w.setRunning job endsAt result).jobs }
  | answers {job : Job} (waits : job ∈ w.jobs) (fresh : job.stage = .spawned) {endsAt : Nat}
      {result : Except Fetch.Failure Json} (course : (w.beginFetch job).2 = (endsAt, result))
      (due : endsAt ≤ w.now) : Effect w (.goOn (.job job.id))
      ((w.books.begin ⟨w.now, job⟩).finish ⟨w.now, job, w.outcomeOf job result⟩ result.isOk)
  | ends {job : Job} (waits : job ∈ w.jobs) {endsAt : Nat} {result : Except Fetch.Failure Json}
      (course : job.stage = .running endsAt result) (due : endsAt ≤ w.now) :
      Effect w (.goOn (.job job.id))
      (w.books.finish ⟨w.now, job, w.outcomeOf job result⟩ result.isOk)

theorem books_finish (w : World) (job : Job) (result : Except Fetch.Failure Json) :
    (w.finish job result).books =
      w.books.finish ⟨w.now, job, w.outcomeOf job result⟩ result.isOk := by
  obtain ⟨mounted, ready, heq, -⟩ := finish_eq w job result
  have htimers := timers_finish w job result
  simp only [books, Books.finish, htimers]
  rw [heq]

theorem effect_runJob {w : World} {job : Job} (h : job ∈ w.jobs) :
    Effect w (.goOn (.job job.id)) (w.runJob job).books := by
  unfold runJob
  split
  · next fresh =>
    generalize hcourse : (w.beginFetch job).2 = course
    obtain ⟨endsAt, result⟩ := course
    have hbegin := beginFetch_fst w job
    have hpair : w.beginFetch job = ((w.beginFetch job).1, endsAt, result) :=
      Prod.ext rfl hcourse
    rw [hpair, hbegin]
    dsimp only
    split
    · next due =>
      rw [books_finish]
      have houtcome : outcomeOf { w with
            begun := ⟨w.now, job⟩ :: w.begun
            asked := BegunFetch.requests ⟨w.now, job⟩ ++ w.asked } job result =
          w.outcomeOf job result := by cases result <;> rfl
      rw [houtcome]
      exact .answers h fresh hcourse due
    · next early => exact .begins h fresh hcourse (Nat.lt_of_not_le early)
  · next course =>
    split
    · next due =>
      rw [books_finish]
      exact .ends h course due
    · exact .rests rfl

/-- A move that sets one timer changes the books by it. -/
theorem books_retimed {w v : World} {n : Nat} {t : Timer}
    (timers : v.timers = w.timers.modify n fun _ => t)
    (rest : v.books = { w.books with timers := v.timers }) :
    v.books = { w.books with timers := w.timers.modify n fun _ => t } := by
  rw [rest, timers]

theorem timers_setOut (w : World) (n : Nat) (t : Timer) (mode : Fetch.QuietMode) :
    (w.setOut n t mode).timers =
      w.timers.modify n fun _ => { t with stage := .dispatching mode false } :=
  timers_modify (g := fun _ => { t with stage := .dispatching mode false }) fun _ => rfl

theorem timers_dispatch (w : World) (n : Nat) (t : Timer) (mode : Fetch.QuietMode) (aborted : Bool) :
    (w.dispatch n t mode aborted).timers =
      w.timers.modify n fun _ => { t with stage := dispatched w.nextJob mode aborted } :=
  timers_modify (g := fun _ => { t with stage := dispatched w.nextJob mode aborted }) fun _ => rfl

theorem timers_asleep (w : World) (n : Nat) (t : Timer) (till : Nat) (mode : Fetch.QuietMode) :
    (w.modify n fun m => { m with timer := { t with stage := .sleeping till mode } }).timers =
      w.timers.modify n fun _ => { t with stage := .sleeping till mode } :=
  timers_modify (g := fun _ => { t with stage := .sleeping till mode }) fun _ => rfl

theorem effect_runTimer {w : World} {n : Nat} {m : Mounted} (h : w.mounted[n]? = some m) :
    Effect w (.goOn (.timer n)) (w.runTimer n m.timer).books := by
  have there := getElem?_timers h
  rw [runTimer_eq h]
  split
  · next mode aborted stage =>
    have hbooks : (w.dispatch n m.timer mode aborted).books =
        { w.books with
          timers := (w.dispatch n m.timer mode aborted).timers
          jobs := w.jobs ++ [⟨w.nextJob, n, mode, m.timer.policy, m.timer.sections, .spawned⟩] } := rfl
    rw [hbooks, timers_dispatch]
    exact .fetches there stage
  · split
    · exact .rests rfl
    · next t till mode aim =>
      split
      · next due =>
        rw [books_retimed (timers_setOut w n t mode) rfl]
        exact .setsOut there aim due
      · next early =>
        rw [books_retimed (timers_asleep w n t till mode) rfl]
        exact .sleeps there aim (Nat.lt_of_not_le early)

theorem books_mount (w : World) (policy : Fetch.Policy) (sections : List Section) :
    (w.mount policy sections).books =
      { w.books with
        timers := w.timers ++
          [⟨policy, sections, policy.interval, .fresh (w.read policy.key).isSome⟩]
        jobs := w.jobs ++ if (w.read policy.key).isSome then [] else
          [⟨w.nextJob, w.mounted.length, .foreground, policy, sections, .spawned⟩] } := by
  unfold mount
  dsimp only
  split <;> simp [books, timers, spawn, *]

theorem timers_mount (w : World) (policy : Fetch.Policy) (sections : List Section) :
    (w.mount policy sections).timers = w.timers ++
      [⟨policy, sections, policy.interval, .fresh (w.read policy.key).isSome⟩] :=
  congrArg Books.timers (books_mount w policy sections)

/-- What a move does to the books. -/
theorem effect_move (w : World) (m : Move) : Effect w m (w.move m).books := by
  cases m with
  | mount policy sections =>
    rw [move, books_mount]
    exact .mounts policy sections
  | refresh n =>
    rcases refresh_cases w n with ⟨heq, -⟩ | ⟨m, hm, live, heq⟩
    · rw [move, heq]
      exact .rests rfl
    · have htimers : (w.modify n fun m => { m with binding := m.binding.refreshed }).timers =
          w.timers := timers_modify_binding w n _
      have hbooks : (w.refresh n).books =
          { w.books with
            timers := (w.modify n fun m => { m with binding := m.binding.refreshed }).timers
            jobs := w.jobs ++
              [⟨w.nextJob, n, .foreground, m.timer.policy, m.timer.sections, .spawned⟩] } := by
        rw [heq]
        rfl
      rw [move, hbooks, htimers]
      exact .refreshes hm live
  | poll n queue =>
    have htimers : (w.poll n).timers = w.timers := timers_modify_binding w n _
    have hbooks : (w.poll n).books = { w.books with timers := (w.poll n).timers } := rfl
    rw [move, report_fst, hbooks, htimers]
    exact .rests rfl
  | unmount n =>
    have htimers : (w.unmount n).timers = w.timers.modify n Timer.abort := timers_modify fun _ => rfl
    have hbooks : (w.unmount n).books = { w.books with timers := (w.unmount n).timers } := rfl
    rw [move, hbooks, htimers]
    exact .unmounts n
  | goOn task =>
    cases task with
    | job id =>
      simp only [move, runTask]
      split
      · next job hjob =>
        have hid : job.id = id := by simpa using List.find?_some hjob
        subst hid
        exact effect_runJob (List.mem_of_find?_eq_some hjob)
      · exact .rests rfl
    | timer n =>
      simp only [move, runTask]
      split
      · next m hm => exact effect_runTimer hm
      · exact .rests rfl
  | clock | calendar | line | serve | disturb => exact .rests rfl

end World

end Lookout
