import Lookout.Proofs.World.Prompt
import Mathlib.Algebra.Order.BigOperators.Group.List
import Mathlib.Algebra.Order.Ring.Nat

/-!
# Moments

What goes on at one moment comes to rest, so the clock moves in time. Whatever can go on stands in line,
and each turn takes one task out of it. What a turn puts there is paid for: a fetch that ends may bring
back its timer, and is gone; a timer that has slept sets out and brings a fetch, and waits for it then. A
timer that has been told of an end sleeps before it fetches again, as long as the interval is not empty.

* **`load_runTask`** — a task that goes on brings no more turns than were there before.
* **`lined_settled`** — once everything in line has gone on, nothing can go on any more.
* **`deeds_in_time`** — whatever pages do while the clock moves is a run in time.
-/

namespace Lookout

/-- The fetch can go on at a time. -/
def Job.isDue (now : Nat) (j : Job) : Bool :=
  match j.stage with
  | .spawned => true
  | .running endsAt _ => endsAt ≤ now

/-- The world makes the move by itself: a task goes on, the clock moves, or the line changes. -/
def Move.byItself : Move → Bool
  | .goOn _ | .clock _ | .line _ => true
  | _ => false

namespace World

/-- The timer can go on at a time. -/
def Timer.isDue (now : Nat) (t : Timer) : Bool :=
  match t.stage with
  | .fresh _ | .dispatching _ _ | .answered _ _ => true
  | .sleeping till _ => till ≤ now
  | .awaiting _ _ | .stopped => false

/-- How many turns more the timer can take and give at a time, until it rests and its fetch has begun: three
if its sleep is over, and two if it has set out. -/
def Timer.turns (now : Nat) (t : Timer) : Nat :=
  match t.stage with
  | .fresh _ => 3
  | .sleeping till _ => if till ≤ now then 3 else 0
  | .dispatching _ _ => 2
  | .answered _ _ | .awaiting _ _ | .stopped => 0

/-- Whatever can go on stands in a line. -/
structure Lined (w : World) (line : List Task) : Prop where
  jobs : ∀ j ∈ w.jobs, j.isDue w.now = true → .job j.id ∈ line
  timers : ∀ n t, w.timers[n]? = some t → Timer.isDue w.now t = true → .timer n ∈ line

variable {w : World}

/-! ## Rest -/

theorem Lined.mono {line more : List Task} (h : Lined w line) (sub : line ⊆ more) : Lined w more :=
  ⟨fun j hj due => sub (h.jobs j hj due), fun n t ht due => sub (h.timers n t ht due)⟩

theorem runJob_of_not_due {j : Job} (h : j.isDue w.now = false) : w.runJob j = w := by
  unfold Job.isDue at h
  unfold runJob
  cases hstage : j.stage with
  | spawned =>
    rw [hstage] at h
    cases h
  | running endsAt result =>
    rw [hstage] at h
    exact if_neg (of_decide_eq_false h)

theorem runTimer_of_not_due {t : Timer} (h : Timer.isDue w.now t = false) (n : Nat) :
    w.runTimer n t = w := by
  unfold Timer.isDue at h
  unfold runTimer
  cases hstage : t.stage with
  | fresh | dispatching | answered =>
    rw [hstage] at h
    cases h
  | sleeping till mode =>
    rw [hstage] at h
    exact if_neg (of_decide_eq_false h)
  | awaiting | stopped => rfl

/-- A world in which nothing can go on is at rest. -/
theorem Lined.rests (h : Lined w []) : Rests w := by
  intro task
  cases task with
  | job id =>
    simp only [runTask]
    split
    · next j hj =>
      have hstill : j.isDue w.now = false := by
        by_contra hdue
        exact List.not_mem_nil (h.jobs j (List.mem_of_find?_eq_some hj) (by simpa using hdue))
      exact runJob_of_not_due hstill
    · rfl
  | timer n =>
    simp only [runTask]
    split
    · next m hm =>
      have hstill : Timer.isDue w.now m.timer = false := by
        by_contra hdue
        exact List.not_mem_nil (h.timers n _ (getElem?_timers hm) (by simpa using hdue))
      exact runTimer_of_not_due hstill n
    · rfl

/-- In a world in which nothing can go on, nothing goes on by itself before a later time. -/
theorem Lined.lt_due (h : Lined w []) {time : Nat} (due : time ∈ w.dueTimes) : w.now < time := by
  by_contra hpast
  rcases List.mem_append.1 due with hjob | htimer
  · obtain ⟨j, hj, htime⟩ := List.mem_filterMap.1 hjob
    split at htime
    · next endsAt result hstage =>
      obtain rfl := Option.some.inj htime
      have hdue : j.isDue w.now = true := by simpa [Job.isDue, hstage] using hpast
      exact List.not_mem_nil (h.jobs j hj hdue)
    · cases htime
  · obtain ⟨m, hm, htime⟩ := List.mem_filterMap.1 htimer
    obtain ⟨n, hn⟩ := List.mem_iff_getElem?.1 hm
    split at htime
    · next till mode hstage =>
      obtain rfl := Option.some.inj htime
      have hdue : Timer.isDue w.now m.timer = true := by simpa [Timer.isDue, hstage] using hpast
      exact List.not_mem_nil (h.timers n _ (getElem?_timers hn) hdue)
    · cases htime

/-! ## What joins the line -/

theorem jobs_finish (w : World) (job : Job) (result : Except Fetch.Failure Json) :
    (w.finish job result).jobs = w.jobs.filter (·.id ≠ job.id) :=
  congrArg Books.jobs (books_finish w job result)

/-- A timer that waits for a fetch joins the line when the fetch ends. -/
theorem ready_finish (w : World) (job : Job) (result : Except Fetch.Failure Json) :
    (w.finish job result).ready = w.ready ++
      if w.timers[job.binding]?.any (Timer.awaits job.id) then [.timer job.binding] else [] := by
  have hwake (v : World) (succeeded : Bool) : (v.wakeTimer job succeeded).ready = v.ready ++
      if v.timers[job.binding]?.any (Timer.awaits job.id) then [.timer job.binding] else [] := by
    unfold wakeTimer
    cases hm : v.mounted[job.binding]? with
    | none => simp [timers, hm]
    | some m =>
      rw [getElem?_timers hm]
      cases hawaits : Timer.awaits job.id m.timer <;> simp [hawaits, modify]
  cases result with
  | ok payload =>
    refine (hwake _ true).trans ?_
    rw [deliver, timers_modify_binding]
    rfl
  | error e =>
    refine (hwake _ false).trans ?_
    rw [deliver, timers_modify_binding]
    rfl

/-- A task that has gone on leaves its place in line once its timer cannot go on, or stands there again. -/
theorem Lined.retime {line more : List Task} {n : Nat} {u : Timer} (h : Lined w (.timer n :: line))
    {v : World} (timers : v.timers = w.timers.modify n fun _ => u) (now : v.now = w.now)
    (still : Timer.isDue w.now u = true → .timer n ∈ more)
    (jobs : ∀ j ∈ v.jobs, j ∈ w.jobs ∨ .job j.id ∈ more) (sub : line ⊆ more) : Lined v more := by
  constructor
  · intro j hj due
    rw [now] at due
    rcases jobs j hj with hold | hnew
    · exact sub ((List.mem_cons.1 (h.jobs j hold due)).resolve_left (by simp))
    · exact hnew
  · intro k t ht due
    rw [timers, List.getElem?_modify] at ht
    rw [now] at due
    obtain ⟨t₀, ht₀, rfl⟩ := Option.map_eq_some_iff.1 ht
    split at due
    · next hk => exact hk ▸ still due
    · next hk =>
      have hne : Task.timer k ≠ .timer n := fun heq => hk (Task.timer.inj heq).symm
      exact sub (List.mem_of_ne_of_mem hne (h.timers k t₀ ht₀ due))

theorem isDue_dispatched (now job : Nat) (mode : Fetch.QuietMode) (aborted : Bool) (t : Timer) :
    Timer.isDue now { t with stage := dispatched job mode aborted } = false := by
  cases aborted <;> rfl

theorem Lined.dispatch {n : Nat} (h : Lined w (.timer n :: w.ready)) (t : Timer)
    (mode : Fetch.QuietMode) (aborted : Bool) :
    Lined (w.dispatch n t mode aborted) (w.dispatch n t mode aborted).ready := by
  refine h.retime (timers_dispatch w n t mode aborted) rfl (fun due => ?_) ?_
    (List.subset_append_left _ _)
  · rw [isDue_dispatched] at due
    cases due
  · intro j hj
    rcases List.mem_append.1 hj with hold | hnew
    · exact .inl hold
    · rw [List.mem_singleton.1 hnew]
      exact .inr (List.mem_append_right _ (List.mem_singleton_self _))

theorem Lined.setOut {n : Nat} (h : Lined w (.timer n :: w.ready)) (t : Timer) (mode : Fetch.QuietMode) :
    Lined (w.setOut n t mode) (w.setOut n t mode).ready :=
  h.retime (timers_setOut w n t mode) rfl (fun _ => List.mem_cons_self) (fun _ hj => .inl hj)
    (List.subset_cons_self _ _)

theorem Lined.asleep {n : Nat} (h : Lined w (.timer n :: w.ready)) (t : Timer) {till : Nat}
    (early : w.now < till) (mode : Fetch.QuietMode) :
    Lined (w.modify n fun m => { m with timer := { t with stage := .sleeping till mode } }) w.ready :=
  h.retime (timers_asleep w n t till mode) rfl
    (fun due => absurd (of_decide_eq_true due) (Nat.not_le_of_lt early)) (fun _ hj => .inl hj)
    (List.Subset.refl _)

theorem Lined.finish {job : Job} (h : Lined w (.job job.id :: w.ready))
    (result : Except Fetch.Failure Json) :
    Lined (w.finish job result) (w.finish job result).ready := by
  constructor
  · intro j hj due
    rw [finish_now] at due
    rw [jobs_finish] at hj
    obtain ⟨hmem, hother⟩ := List.mem_filter.1 hj
    have hne : Task.job j.id ≠ .job job.id := fun heq => of_decide_eq_true hother (Task.job.inj heq)
    rw [ready_finish]
    exact List.mem_append_left _ (List.mem_of_ne_of_mem hne (h.jobs j hmem due))
  · intro n t ht due
    rw [timers_finish, List.getElem?_modify] at ht
    rw [finish_now] at due
    rw [ready_finish]
    obtain ⟨t₀, ht₀, rfl⟩ := Option.map_eq_some_iff.1 ht
    have hstays (hdue : Timer.isDue w.now t₀ = true) : .timer n ∈ w.ready :=
      (List.mem_cons.1 (h.timers n t₀ ht₀ hdue)).resolve_left (by simp)
    split at due
    · next hn =>
      cases hawaits : Timer.awaits job.id t₀ with
      | true =>
        -- The timer is the one that waits for this fetch, and joins the line.
        refine List.mem_append_right _ ?_
        rw [hn, ht₀, Option.any_some, hawaits, if_pos rfl]
        exact List.mem_singleton_self _
      | false =>
        rw [Timer.hear_of_not_awaits hawaits] at due
        exact List.mem_append_left _ (hstays due)
    · exact List.mem_append_left _ (hstays due)

theorem Lined.setRunning {job : Job} (h : Lined w (.job job.id :: w.ready)) {endsAt : Nat}
    (early : w.now < endsAt) (result : Except Fetch.Failure Json) :
    Lined (w.setRunning job endsAt result) w.ready := by
  refine ⟨?_, fun n t ht due => (List.mem_cons.1 (h.timers n t ht due)).resolve_left (by simp)⟩
  intro j hj due
  obtain ⟨k, hk, rfl⟩ := List.mem_map.1 hj
  split at due
  · exact absurd (of_decide_eq_true due) (Nat.not_le_of_lt early)
  · next hother =>
    rw [if_neg hother]
    have hne : Task.job k.id ≠ .job job.id := fun heq => hother (Task.job.inj heq)
    exact List.mem_of_ne_of_mem hne (h.jobs k hk due)

/-- A task that goes on puts in line whatever can go on then. -/
theorem Lined.runTask (a : Accounts w) {task : Task} (h : Lined w (task :: w.ready)) :
    Lined (w.runTask task) (w.runTask task).ready := by
  -- A task that cannot go on can leave the line.
  have hleaves (still : ∀ j ∈ w.jobs, j.isDue w.now = true → Task.job j.id ≠ task)
      (asleep : ∀ n t, w.timers[n]? = some t → Timer.isDue w.now t = true → Task.timer n ≠ task) :
      Lined w w.ready :=
    ⟨fun j hj due => List.mem_of_ne_of_mem (still j hj due) (h.jobs j hj due),
      fun n t ht due => List.mem_of_ne_of_mem (asleep n t ht due) (h.timers n t ht due)⟩
  cases task with
  | job id =>
    simp only [World.runTask]
    split
    · next job hjob =>
      obtain rfl : job.id = id := by simpa using List.find?_some hjob
      have hwaits := List.mem_of_find?_eq_some hjob
      have hbegin : Lined (w.beginFetch job).1 (.job job.id :: (w.beginFetch job).1.ready) := by
        rw [beginFetch_fst]
        exact ⟨h.jobs, h.timers⟩
      cases hdue : job.isDue w.now with
      | false =>
        rw [runJob_of_not_due hdue]
        refine hleaves (fun j hj due heq => ?_) fun n t _ _ => by simp
        obtain rfl := a.eq_of_id hj hwaits (Task.job.inj heq)
        rw [hdue] at due
        cases due
      | true =>
        unfold runJob
        split
        · dsimp only
          split
          · exact hbegin.finish _
          · next early => exact hbegin.setRunning (Nat.lt_of_not_le early) _
        · next endsAt result hstage =>
          have hends : endsAt ≤ w.now := by simpa [Job.isDue, hstage] using hdue
          rw [if_pos hends]
          exact h.finish _
    · next hnone =>
      refine hleaves (fun j hj _ heq => ?_) fun n t _ _ => by simp
      simpa [Task.job.inj heq] using List.find?_eq_none.1 hnone j hj
  | timer n =>
    simp only [World.runTask]
    split
    · next m hm =>
      have ht := getElem?_timers hm
      cases hdue : Timer.isDue w.now m.timer with
      | false =>
        rw [runTimer_of_not_due hdue]
        refine hleaves (fun j _ _ => by simp) fun k t hk due heq => ?_
        obtain rfl := Task.timer.inj heq
        obtain rfl := Option.some.inj (ht.symm.trans hk)
        rw [hdue] at due
        cases due
      | true =>
        rw [runTimer_eq hm]
        split
        · exact h.dispatch _ _ _
        · next rests =>
          split
          · next hnone =>
            -- A timer that can go on and is not about to spawn a fetch aims at a time.
            unfold Timer.isDue at hdue
            unfold Timer.aim? at hnone
            split at hnone <;> simp_all
          · next t till mode _ =>
            split
            · exact h.setOut t mode
            · next early => exact h.asleep t (Nat.lt_of_not_le early) mode
    · next hnone =>
      refine hleaves (fun j _ _ => by simp) fun k t hk _ heq => ?_
      obtain rfl := Task.timer.inj heq
      simp [World.timers, hnone] at hk

/-! ## A moment ends -/

/-- No interval between background fetches is empty. -/
def Paced (w : World) : Prop := ∀ p ∈ w.purposes, 0 < p.policy.interval.nanos

/-- How many turns what is there can take at one moment: one for each task in line, one for each fetch,
and those that the timers can bring. -/
def load (w : World) : Nat :=
  w.ready.length + w.jobs.length + (w.timers.map (Timer.turns w.now)).sum

theorem lt_sleepEnd (now : Nat) {d : Duration} (pos : 0 < d.nanos) : now < sleepEnd now d := by
  have hmillis : 0 < d.ceilMillis := by
    simp only [Duration.ceilMillis, Duration.nanosPerMilli]
    omega
  unfold sleepEnd
  split
  · exact Nat.lt_add_of_pos_right (by decide)
  · exact Nat.lt_add_of_pos_right hmillis

theorem Paced.move (p : Paced w) {m : Move} (mounts : ∀ q ∈ m.purpose?, 0 < q.policy.interval.nanos) :
    Paced (w.move m) := by
  intro q hq
  rw [purposes_move] at hq
  rcases List.mem_append.1 hq with hold | hnew
  · exact p q hold
  · exact mounts q (Option.mem_toList.1 hnew)

/-- A timer that sets out has three turns to take: it is not one that has just been told of an end. -/
theorem Paced.turns_eq (p : Paced w) (o : Owned w) {n : Nat} {t t' : Timer}
    (there : w.timers[n]? = some t) {till : Nat} {mode : Fetch.QuietMode}
    (aim : Timer.aim? w.now t = some (t', till, mode)) (due : till ≤ w.now) :
    Timer.turns w.now t = 3 := by
  have hpos : 0 < t.policy.interval.nanos :=
    p _ (List.mem_of_getElem? (o.purpose_of_timer there))
  unfold Timer.aim? at aim
  unfold Timer.turns
  cases hstage : t.stage with
  | fresh warm => rfl
  | sleeping till' mode' =>
    rw [hstage] at aim
    obtain ⟨rfl, rfl, rfl⟩ : _ ∧ _ ∧ _ := by simpa using aim
    exact if_pos due
  | answered mode' succeeded =>
    rw [hstage] at aim
    obtain ⟨-, rfl, -⟩ : _ ∧ _ ∧ _ := by simpa using aim
    have hwait : 0 < (waitAfter t mode' succeeded).nanos := by
      unfold waitAfter
      split
      · exact Nat.lt_of_lt_of_le hpos (t.policy.interval_le_nextWait _ _)
      · exact hpos
    exact absurd due (Nat.not_le_of_lt (lt_sleepEnd w.now hwait))
  | dispatching | awaiting | stopped =>
    rw [hstage] at aim
    cases aim

/-- A timer that is told of an end brings no turns but its own. -/
theorem Timer.turns_hear (now id : Nat) (succeeded : Bool) (t : Timer) :
    Timer.turns now (Timer.hear id succeeded t) = Timer.turns now t := by
  unfold Timer.hear
  split
  · next id' mode hstage =>
    split
    · simp only [Timer.turns, hstage]
    · rfl
  · rfl

/-- One timer that is set changes the turns that the timers can bring by its own. -/
theorem sum_turns_retimed {n : Nat} {t u : Timer} (there : w.timers[n]? = some t) {v : World}
    (timers : v.timers = w.timers.modify n fun _ => u) (now : v.now = w.now) :
    (v.timers.map (Timer.turns v.now)).sum + Timer.turns w.now t =
      (w.timers.map (Timer.turns w.now)).sum + Timer.turns w.now u := by
  rw [timers, now]
  exact sum_modify there (fun _ => u) (Timer.turns w.now)

/-- A fetch that ends is used up, and at most one timer joins the line. -/
theorem load_finish {job : Job} (waits : job ∈ w.jobs) (result : Except Fetch.Failure Json) :
    (w.finish job result).load ≤ w.load := by
  have hjobs : (w.finish job result).jobs.length < w.jobs.length := by
    rw [jobs_finish]
    exact List.length_filter_lt_length_iff_exists.2 ⟨job, waits, by simp⟩
  have hready : (w.finish job result).ready.length ≤ w.ready.length + 1 := by
    rw [ready_finish, List.length_append]
    split
    · exact Nat.le_refl _
    · exact Nat.le_succ _
  have htimers : ((w.finish job result).timers.map (Timer.turns w.now)).sum =
      (w.timers.map (Timer.turns w.now)).sum := by
    rw [timers_finish]
    cases ht : w.timers[job.binding]? with
    | none => rw [List.modify_eq_self (List.getElem?_eq_none_iff.1 ht)]
    | some t =>
      have hsum := sum_modify ht (Timer.hear job.id result.isOk) (Timer.turns w.now)
      rw [Timer.turns_hear] at hsum
      omega
  rw [load, finish_now, htimers]
  unfold load
  omega

/-- A timer that sets out takes its place at the head of the line, which is one of its turns. -/
theorem load_setOut {n : Nat} {t : Timer} (there : w.timers[n]? = some t)
    (counted : Timer.turns w.now t = 3) (u : Timer) (mode : Fetch.QuietMode) :
    (w.setOut n u mode).load = w.load := by
  have hsum := sum_turns_retimed there (timers_setOut w n u mode) rfl
  have hjobs : (w.setOut n u mode).jobs.length = w.jobs.length := rfl
  have hready : (w.setOut n u mode).ready.length = w.ready.length + 1 := rfl
  have hturns : Timer.turns w.now { u with stage := .dispatching mode false } = 2 := rfl
  unfold load
  omega

/-- A timer that spawns a fetch has given up its two turns for it. -/
theorem load_dispatch {n : Nat} {t : Timer} (there : w.timers[n]? = some t) {mode : Fetch.QuietMode}
    {aborted : Bool} (stage : t.stage = .dispatching mode aborted) :
    (w.dispatch n t mode aborted).load = w.load := by
  have hsum := sum_turns_retimed there (timers_dispatch w n t mode aborted) rfl
  have hjobs : (w.dispatch n t mode aborted).jobs.length = w.jobs.length + 1 := List.length_append
  have hready : (w.dispatch n t mode aborted).ready.length = w.ready.length + 1 := List.length_append
  have hcounted : Timer.turns w.now t = 2 := by simp only [Timer.turns, stage]
  have hturns : Timer.turns w.now { t with stage := dispatched w.nextJob mode aborted } = 0 := by
    cases aborted <;> rfl
  unfold load
  omega

theorem load_asleep {n : Nat} {t : Timer} (there : w.timers[n]? = some t) (u : Timer) {till : Nat}
    (early : w.now < till) (mode : Fetch.QuietMode) :
    (w.modify n fun m => { m with timer := { u with stage := .sleeping till mode } }).load ≤
      w.load := by
  have hsum := sum_turns_retimed there (timers_asleep w n u till mode) rfl
  have hturns : Timer.turns w.now { u with stage := .sleeping till mode } = 0 :=
    if_neg (Nat.not_le_of_lt early)
  unfold load
  show w.ready.length + w.jobs.length + _ ≤ _
  omega

/-- A task that goes on brings no more turns than were there before. -/
theorem load_runTask (o : Orderly w) (p : Paced w) (task : Task) :
    (w.runTask task).load ≤ w.load := by
  cases task with
  | job id =>
    simp only [runTask]
    split
    · next job hjob =>
      have hwaits := List.mem_of_find?_eq_some hjob
      have hload : (w.beginFetch job).1.load = w.load := by
        rw [beginFetch_fst]
        rfl
      have hbegun : job ∈ (w.beginFetch job).1.jobs := by
        rw [beginFetch_fst]
        exact hwaits
      unfold runJob
      split
      · dsimp only
        rw [← hload]
        split
        · exact load_finish hbegun _
        · refine Nat.le_of_eq ?_
          simp only [load, setRunning, List.length_map]
          rfl
      · split
        · exact load_finish hwaits _
        · exact Nat.le_refl _
    · exact Nat.le_refl _
  | timer n =>
    simp only [runTask]
    split
    · next m hm =>
      have ht := getElem?_timers hm
      rw [runTimer_eq hm]
      split
      · next mode aborted stage => exact Nat.le_of_eq (load_dispatch ht stage)
      · split
        · exact Nat.le_refl _
        · next t till mode aim =>
          split
          · next due => exact Nat.le_of_eq (load_setOut ht (p.turns_eq o.owned ht aim due) t mode)
          · next early => exact load_asleep ht t (Nat.lt_of_not_le early) mode
    · exact Nat.le_refl _

/-- A turn leaves one turn less to take. -/
theorem load_turn (o : Orderly w) (p : Paced w) {task : Task} {rest : List Task}
    (line : w.ready = task :: rest) :
    Orderly ({ w with ready := rest }.runTask task) ∧ Paced ({ w with ready := rest }.runTask task) ∧
      ({ w with ready := rest }.runTask task).load + 1 ≤ w.load := by
  let v : World := w.move (.line rest)
  have ho : Orderly v := o.move _
  have hp : Paced v := p
  have hpaced : Paced (v.runTask task) := hp.move (m := .goOn task) fun _ h => by cases h
  have hless : v.load + 1 = w.load := by
    show rest.length + w.jobs.length + (w.timers.map (Timer.turns w.now)).sum + 1 = w.load
    rw [load, line, List.length_cons]
    omega
  have hturn : (v.runTask task).load ≤ v.load := load_runTask ho hp task
  exact ⟨ho.move (.goOn task), hpaced, hless ▸ Nat.succ_le_succ hturn⟩

/-- Everything that can go on at a moment has gone on after as many turns as are there. -/
theorem lined_settle (o : Orderly w) (p : Paced w) (h : Lined w w.ready) {fuel : Nat}
    (enough : w.load ≤ fuel) : Lined (settle fuel w) [] := by
  have hempty {w : World} (h : Lined w w.ready) (hready : w.ready = []) : Lined w [] := by
    rw [hready] at h
    exact h
  induction fuel generalizing w with
  | zero =>
    have hnone : w.ready.length = 0 := by
      unfold load at enough
      omega
    exact hempty h (List.length_eq_zero_iff.1 hnone)
  | succ fuel ih =>
    unfold settle
    split
    · next hready => exact hempty h hready
    · next task rest hready =>
      obtain ⟨horderly, hpaced, hless⟩ := load_turn o p hready
      have hlined : Lined { w with ready := rest } (task :: rest) := by
        rw [hready] at h
        exact ⟨h.jobs, h.timers⟩
      exact ih horderly hpaced (hlined.runTask (o.move (.line rest)).accounts) (by omega)

theorem load_le_turns (w : World) : w.load ≤ w.turns := by
  have hthree (t : Timer) : Timer.turns w.now t ≤ 3 := by
    unfold Timer.turns
    split
    · exact Nat.le_refl 3
    · split <;> decide
    · decide
    · exact Nat.zero_le 3
    · exact Nat.zero_le 3
    · exact Nat.zero_le 3
  have hsum : (w.timers.map (Timer.turns w.now)).sum ≤ w.mounted.length * 3 := by
    have hcard := List.sum_le_card_nsmul (w.timers.map (Timer.turns w.now)) 3 fun k hk => by
      obtain ⟨t, -, rfl⟩ := List.mem_map.1 hk
      exact hthree t
    simpa using hcard
  unfold load turns
  omega

/-- Once everything in line has gone on, nothing can go on any more. -/
theorem lined_settled (o : Orderly w) (p : Paced w) (h : Lined w w.ready) : Lined w.settled [] :=
  lined_settle o p h (load_le_turns w)

/-! ## The clock moves in time -/

/-- The world comes to another by itself and in time. -/
def Passes (w v : World) : Prop :=
  ∃ moves, Prompt w moves ∧ (∀ m ∈ moves, m.byItself = true) ∧ w.run moves = v

theorem Passes.refl (w : World) : Passes w w := ⟨[], trivial, List.forall_mem_nil _, rfl⟩

theorem Passes.trans {u v : World} (h : Passes w v) (h' : Passes v u) : Passes w u := by
  obtain ⟨moves, hprompt, hown, rfl⟩ := h
  obtain ⟨more, hprompt', hown', rfl⟩ := h'
  refine ⟨moves ++ more, prompt_append.2 ⟨hprompt, hprompt'⟩, ?_, run_append w moves more⟩
  exact List.forall_mem_append.2 ⟨hown, hown'⟩

theorem Passes.of_move {m : Move} (inTime : InTime w m) (own : m.byItself = true) :
    Passes w (w.move m) :=
  ⟨[m], ⟨inTime, trivial⟩, List.forall_mem_singleton.2 own, rfl⟩

theorem passes_settle (fuel : Nat) (w : World) : Passes w (settle fuel w) := by
  induction fuel generalizing w with
  | zero => exact .refl w
  | succ fuel ih =>
    unfold settle
    split
    · exact .refl w
    · next task rest _ =>
      have hline : Passes w (w.move (.line rest)) := .of_move trivial rfl
      have hturn : Passes (w.move (.line rest)) ((w.move (.line rest)).move (.goOn task)) :=
        .of_move trivial rfl
      exact (hline.trans hturn).trans (ih _)

theorem Passes.orderly {v : World} (h : Passes w v) (o : Orderly w) : Orderly v := by
  obtain ⟨moves, -, -, rfl⟩ := h
  exact orderly_run o moves

theorem Passes.paced {v : World} (h : Passes w v) (p : Paced w) : Paced v := by
  obtain ⟨moves, -, hown, rfl⟩ := h
  have hnone : moves.filterMap (·.purpose?) = [] := by
    rw [List.filterMap_eq_nil_iff]
    intro m hm
    have hm := hown m hm
    cases m with
    | goOn | clock | line => rfl
    | mount | refresh | poll | unmount | calendar | serve | disturb => cases hm
  rw [Paced, purposes_run, hnone, List.append_nil]
  exact p

/-- The clock can be put at a later time if nothing goes on before. -/
theorem passes_clock (h : Lined w []) {time : Nat} (forward : w.now ≤ time)
    (next : ∀ due ∈ w.dueTimes, time ≤ due) : Passes w { w with now := time } :=
  .of_move (m := .clock time) ⟨h.rests, forward, next⟩ rfl

/-- A fetch that can go on at a time, and cannot now, ends by then. -/
theorem Lined.job_due (h : Lined w []) {j : Job} (hj : j ∈ w.jobs) {time : Nat}
    (due : j.isDue time = true) :
    ∃ endsAt result, j.stage = .running endsAt result ∧ endsAt ≤ time ∧ endsAt ∈ w.dueTimes := by
  cases hstage : j.stage with
  | spawned =>
    have hnow : j.isDue w.now = true := by simp only [Job.isDue, hstage]
    exact absurd (h.jobs j hj hnow) List.not_mem_nil
  | running endsAt result =>
    simp only [Job.isDue, hstage] at due
    refine ⟨endsAt, result, rfl, of_decide_eq_true due, ?_⟩
    refine List.mem_append_left _ (List.mem_filterMap.2 ⟨j, hj, ?_⟩)
    rw [hstage]

/-- A timer that can go on at a time, and cannot now, sleeps until then or less. -/
theorem Lined.timer_due (h : Lined w []) {n : Nat} {m : Mounted} (hm : w.mounted[n]? = some m)
    {time : Nat} (due : Timer.isDue time m.timer = true) :
    ∃ till mode, m.timer.stage = .sleeping till mode ∧ till ≤ time ∧ till ∈ w.dueTimes := by
  cases hstage : m.timer.stage with
  | fresh | dispatching | answered =>
    have hnow : Timer.isDue w.now m.timer = true := by simp only [Timer.isDue, hstage]
    exact absurd (h.timers n _ (getElem?_timers hm) hnow) List.not_mem_nil
  | sleeping till mode =>
    simp only [Timer.isDue, hstage] at due
    refine ⟨till, mode, rfl, of_decide_eq_true due, ?_⟩
    refine List.mem_append_right _ (List.mem_filterMap.2 ⟨m, List.mem_of_getElem? hm, ?_⟩)
    rw [hstage]
  | awaiting | stopped =>
    simp only [Timer.isDue, hstage] at due
    cases due

/-- What goes on at a time is in line once the clock has come to it. -/
theorem lined_wake (h : Lined w []) (time : Nat) : Lined (w.wake time) (w.wake time).ready := by
  constructor
  · intro j hj due
    obtain ⟨endsAt, result, hstage, hends, -⟩ := h.job_due hj due
    refine List.mem_append_left _ (List.mem_append_right _ (List.mem_filterMap.2 ⟨j, hj, ?_⟩))
    rw [hstage]
    exact if_pos hends
  · intro n t ht due
    obtain ⟨m, hm, rfl⟩ : ∃ m, w.mounted[n]? = some m ∧ m.timer = t := exists_of_timers ht
    obtain ⟨till, mode, hstage, htill, -⟩ := h.timer_due hm due
    obtain ⟨hlt, hget⟩ := List.getElem?_eq_some_iff.1 hm
    refine List.mem_append_right _ (List.mem_filterMap.2 ⟨some (.timer n), ?_, rfl⟩)
    refine List.mem_mapIdx.2 ⟨n, hlt, ?_⟩
    rw [hget, hstage]
    exact if_pos htill

/-- Nothing can go on as long as the clock has not come to the next time at which something does. -/
theorem Lined.clock (h : Lined w []) {time : Nat} (later : ∀ due ∈ w.dueTimes, time < due) :
    Lined { w with now := time } [] := by
  constructor
  · intro j hj due
    obtain ⟨endsAt, -, -, hends, hmem⟩ := h.job_due hj due
    exact absurd hends (Nat.not_le_of_lt (later endsAt hmem))
  · intro n t ht due
    obtain ⟨m, hm, rfl⟩ := exists_of_timers ht
    obtain ⟨till, -, -, htill, hmem⟩ := h.timer_due hm due
    exact absurd htill (Nat.not_le_of_lt (later till hmem))

/-- Between what happens to a world from outside, its timers wait for their fetches, no interval is empty,
and whatever can go on stands in line. -/
structure Driven (w : World) : Prop where
  orderly : Orderly w
  paced : Paced w
  lined : Lined w w.ready

theorem driven_start (calendar : Int) (space : String) (storage : Cache.Storage) (servers : Servers) :
    Driven (start calendar space storage servers) where
  orderly := orderly_start calendar space storage servers
  paced := List.forall_mem_nil _
  lined := ⟨List.forall_mem_nil _, nofun⟩

theorem Passes.driven {v : World} (h : Passes w v) (d : Driven w) (lined : Lined v v.ready) : Driven v :=
  ⟨h.orderly d.orderly, h.paced d.paced, lined⟩

/-- A world whose clock comes to the next time at which something goes on is driven on. -/
theorem driven_wake (d : Driven w) {time : Nat} (next : w.settled.nextDue? = some time) :
    Passes w (w.settled.wake time) ∧ Driven (w.settled.wake time) ∧ w.now < time := by
  have hlined : Lined w.settled [] := lined_settled d.orderly d.paced d.lined
  obtain ⟨hdue, hleast⟩ := List.min?_eq_some_iff.1 next
  have hlater : w.settled.now < time := hlined.lt_due hdue
  have hclock : Passes w.settled { w.settled with now := time } :=
    passes_clock hlined (Nat.le_of_lt hlater) hleast
  have hline : Passes { w.settled with now := time } (w.settled.wake time) :=
    .of_move (m := .line (w.settled.wake time).ready) trivial rfl
  have hwake : Passes w (w.settled.wake time) := ((passes_settle _ w).trans hclock).trans hline
  have hnow : w.settled.now = w.now := settle_now _ w
  exact ⟨hwake, hwake.driven d (lined_wake hlined time), hnow ▸ hlater⟩

/-- A movement of the clock to a time is in time, given one step for each millisecond and one more. -/
theorem advanceTo_in_time (d : Driven w) {fuel target : Nat} (forward : w.now ≤ target)
    (enough : target - w.now < fuel) :
    Passes w (advanceTo fuel target w) ∧
      Lined (advanceTo fuel target w) (advanceTo fuel target w).ready := by
  induction fuel generalizing w with
  | zero => exact absurd enough (Nat.not_lt_zero _)
  | succ fuel ih =>
    have hsettle : Passes w w.settled := passes_settle _ w
    have hlined : Lined w.settled [] := lined_settled d.orderly d.paced d.lined
    have hnow : w.settled.now = w.now := settle_now _ w
    have hstop (later : ∀ due ∈ w.settled.dueTimes, target < due) :
        Passes w { w.settled with now := target } ∧
          Lined { w.settled with now := target } w.settled.ready := by
      have hforward : w.settled.now ≤ target := hnow ▸ forward
      have hclock : Passes w.settled { w.settled with now := target } :=
        passes_clock hlined hforward fun due hdue => Nat.le_of_lt (later due hdue)
      exact ⟨hsettle.trans hclock, (hlined.clock later).mono (List.nil_subset _)⟩
    unfold advanceTo
    dsimp only
    split
    · next time hnext =>
      split
      · next hsoon =>
        obtain ⟨hwake, hdriven, hlater⟩ := driven_wake d hnext
        have hleft : target - (w.settled.wake time).now < fuel := by
          show target - time < fuel
          omega
        obtain ⟨hrest, hends⟩ := ih hdriven hsoon hleft
        exact ⟨hwake.trans hrest, hends⟩
      · next hfar =>
        refine hstop fun due hmem => ?_
        exact Nat.lt_of_lt_of_le (Nat.lt_of_not_le hfar) ((List.min?_eq_some_iff.1 hnext).2 due hmem)
    · next hnone =>
      have hnil : w.settled.dueTimes = [] := List.min?_eq_none_iff.1 hnone
      refine hstop ?_
      rw [hnil]
      exact List.forall_mem_nil _

/-- A movement of the clock is a run in time, and leaves in line whatever can go on. -/
theorem advance_in_time (d : Driven w) (millis : Nat) :
    Passes w (w.advance millis) ∧ Driven (w.advance millis) := by
  obtain ⟨hpasses, hlined⟩ : Passes w (w.advance millis) ∧
      Lined (w.advance millis) (w.advance millis).ready := by
    refine advanceTo_in_time d (Nat.le_add_right _ _) ?_
    omega
  exact ⟨hpasses, hpasses.driven d hlined⟩

/-! ## What pages do meanwhile -/

/-- What happens to a world that is driven from outside: pages and the world around them make their moves,
and the clock is advanced between. -/
inductive Deed
  | act (m : Move) (outside : m.byItself = false)
  | advance (millis : Nat)

/-- The move that is made from outside. -/
def Deed.move? : Deed → Option Move
  | .act m _ => some m
  | .advance _ => none

/-- The world after something has happened to it. -/
def deed (w : World) : Deed → World
  | .act m _ => w.move m
  | .advance millis => w.advance millis

/-- The world after things have happened to it, one after the other. -/
def deeds (w : World) (ds : List Deed) : World := ds.foldl deed w

/-- A page that puts in line what it adds leaves in line whatever can go on. -/
theorem Lined.add {line more : List Task} (h : Lined w line) {v : World} (now : v.now = w.now)
    (jobs : ∀ j ∈ v.jobs, j ∈ w.jobs ∨ .job j.id ∈ more)
    (timers : ∀ n t, v.timers[n]? = some t → Timer.isDue w.now t = true →
      w.timers[n]? = some t ∨ .timer n ∈ more)
    (sub : line ⊆ more) : Lined v more := by
  constructor
  · intro j hj due
    rw [now] at due
    rcases jobs j hj with hold | hnew
    · exact sub (h.jobs j hold due)
    · exact hnew
  · intro n t ht due
    rw [now] at due
    rcases timers n t ht due with hold | hnew
    · exact sub (h.timers n t hold due)
    · exact hnew

/-- What pages do puts in line whatever can go on then. -/
theorem Lined.act (h : Lined w w.ready) {m : Move} (outside : m.byItself = false) :
    Lined (w.move m) (w.move m).ready := by
  have hnow : (w.move m).now = w.now := by
    refine move_now fun time hm => ?_
    rw [hm] at outside
    cases outside
  cases m with
  | goOn | clock | line => cases outside
  | calendar | serve | disturb => exact ⟨h.jobs, h.timers⟩
  | mount policy sections =>
    have hready : (w.mount policy sections).ready = w.ready ++
        (if (w.read policy.key).isSome then [] else [.job w.nextJob]) ++
          [.timer w.mounted.length] := by
      unfold mount
      dsimp only
      split <;> simp [spawn]
    have hjobs : (w.mount policy sections).jobs = w.jobs ++
        if (w.read policy.key).isSome then [] else
          [⟨w.nextJob, w.mounted.length, .foreground, policy, sections, .spawned⟩] :=
      congrArg Books.jobs (books_mount w policy sections)
    rw [move] at hnow ⊢
    rw [hready]
    refine h.add hnow (fun j hj => ?_) (fun n t ht _ => ?_) ?_
    · rw [hjobs] at hj
      rcases List.mem_append.1 hj with hold | hnew
      · exact .inl hold
      · split at hnew
        · cases hnew
        · next hcold =>
          rw [List.mem_singleton.1 hnew, if_neg hcold]
          exact .inr (List.mem_append_left _ (List.mem_append_right _ (List.mem_singleton_self _)))
    · rw [timers_mount] at ht
      rcases Nat.lt_or_ge n w.timers.length with hlt | hge
      · rw [List.getElem?_append_left hlt] at ht
        exact .inl ht
      · obtain ⟨hlength, -⟩ := List.getElem?_eq_some_iff.1 ht
        rw [List.length_append, List.length_singleton] at hlength
        have hlast : n = w.mounted.length := by
          rw [← length_timers]
          exact Nat.le_antisymm (Nat.le_of_lt_succ hlength) hge
        rw [hlast]
        exact .inr (List.mem_append_right _ (List.mem_singleton_self _))
    · rw [List.append_assoc]
      exact List.subset_append_left _ _
  | refresh n =>
    rw [move] at hnow ⊢
    rcases refresh_cases w n with ⟨heq, -⟩ | ⟨m, -, -, heq⟩
    · rw [heq]
      exact h
    · have htimers : (w.modify n fun m => { m with binding := m.binding.refreshed }).timers =
          w.timers := timers_modify_binding w n _
      rw [heq] at hnow ⊢
      refine h.add hnow (fun j hj => ?_) (fun k t ht _ => .inl ?_) (List.subset_append_left _ _)
      · rcases List.mem_append.1 hj with hold | hnew
        · exact .inl hold
        · rw [List.mem_singleton.1 hnew]
          exact .inr (List.mem_append_right _ (List.mem_singleton_self _))
      · rw [← htimers]
        exact ht
  | poll n queue =>
    have htimers : (w.poll n).timers = w.timers := timers_modify_binding w n _
    rw [move, report_fst]
    refine h.add rfl (fun j hj => .inl hj) (fun k t ht _ => .inl ?_) (List.Subset.refl _)
    rw [← htimers]
    exact ht
  | unmount n =>
    have htimers : (w.unmount n).timers = w.timers.modify n Timer.abort := timers_modify fun _ => rfl
    refine h.add rfl (fun j hj => .inl hj) (fun k t ht due => ?_) (List.Subset.refl _)
    have hmodify : (w.timers.modify n Timer.abort)[k]? = some t := htimers ▸ ht
    rw [List.getElem?_modify] at hmodify
    obtain ⟨t₀, ht₀, habort⟩ := Option.map_eq_some_iff.1 hmodify
    split at habort
    · -- A timer that can go on though it has been aborted is about to spawn a fetch.
      obtain rfl := habort
      refine .inr (h.timers k t₀ ht₀ ?_)
      unfold Timer.abort at due
      split at due
      · next mode aborted stage => simp only [Timer.isDue, stage]
      · cases due
    · obtain rfl := habort
      exact .inl ht₀

theorem Driven.act (d : Driven w) {m : Move} (outside : m.byItself = false)
    (mounts : ∀ q ∈ m.purpose?, 0 < q.policy.interval.nanos) : Driven (w.move m) :=
  ⟨d.orderly.move m, d.paced.move mounts, d.lined.act outside⟩

/-- The moves that are made from outside, in their order. -/
def acts (ds : List Deed) : List Move := ds.filterMap Deed.move?

/-- Whatever pages do while the clock moves is a run in time: the moves of the pages in their order, and
between them what the world does by itself. -/
theorem deeds_in_time (d : Driven w) {ds : List Deed}
    (mounts : ∀ m ∈ acts ds, ∀ q ∈ m.purpose?, 0 < q.policy.interval.nanos) :
    Driven (w.deeds ds) ∧ ∃ moves, Prompt w moves ∧ moves.filter (!·.byItself) = acts ds ∧
      w.run moves = w.deeds ds := by
  induction ds generalizing w with
  | nil => exact ⟨d, [], trivial, rfl, rfl⟩
  | cons e ds ih =>
    cases e with
    | act m outside =>
      obtain ⟨hm, hrest⟩ := List.forall_mem_cons.1 mounts
      obtain ⟨hdriven, moves, hprompt, hmoves, hrun⟩ := ih (d.act outside hm) hrest
      have hfirst : InTime w m := by
        cases m with
        | goOn | clock | line => cases outside
        | mount | refresh | poll | unmount | calendar | serve | disturb => exact trivial
      refine ⟨hdriven, m :: moves, ⟨hfirst, hprompt⟩, ?_, hrun⟩
      rw [List.filter_cons_of_pos (by rw [outside]; rfl), hmoves]
      rfl
    | advance millis =>
      obtain ⟨⟨first, hfirst, hown, heq⟩, hlater⟩ := advance_in_time d millis
      obtain ⟨hdriven, moves, hprompt, hmoves, hrun⟩ := ih hlater mounts
      have hnone : first.filter (!·.byItself) = [] := by
        rw [List.filter_eq_nil_iff]
        intro m hm
        rw [hown m hm]
        exact Bool.false_ne_true
      refine ⟨hdriven, first ++ moves, prompt_append.2 ⟨hfirst, heq ▸ hprompt⟩, ?_, ?_⟩
      · rw [List.filter_append, hnone, hmoves]
        rfl
      · rw [run_append, heq, hrun]
        rfl

end World

end Lookout
