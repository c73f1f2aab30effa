import Lookout.Proofs.World.Moments
import Lookout.Proofs.World.Reads

/-!
# The polling schedule

When the timer of a page fetches: a page shown from the cache is checked once, a little after it was
mounted, and every page is fetched in the background, each time when a wait has passed since the last of
these fetches ended. The schedule depends on the policy and on when and how its own fetches have ended,
and on nothing else that happens to the page.

* **`polls`** — when the background fetches begin, given when and how they end.
* **`planned_concat`** — the end of a fetch adds the next one to the schedule.
* **`onTime_run`** — a session keeps its schedule in every run in time.
* **`onTime_deeds`** — and so it does whatever pages do while the clock moves.
* **`polling_on_schedule`** — when the timer of a page fetches.
-/

namespace Lookout

open Fetch (Policy QuietMode)

namespace World

/-! ## Sleeping -/

/-- A sleep of whole milliseconds ends after them, if the clock can count its end. -/
theorem sleepEnd_ofMillis {now millis : Nat} (h : now / 1000 + millis / 1000 < 0x8000000000000000) :
    sleepEnd now (.ofMillis millis) = now + millis := by
  have hsecs : (Duration.ofMillis millis).secs = millis / 1000 := by
    simp only [Duration.secs, Duration.ofMillis, Duration.nanosPerMilli, Duration.nanosPerSec]
    omega
  have hmillis : (Duration.ofMillis millis).ceilMillis = millis := by
    simp only [Duration.ceilMillis, Duration.ofMillis, Duration.nanosPerMilli]
    omega
  rw [sleepEnd, hsecs, if_neg (Nat.not_le_of_lt h), hmillis]

/-- A sleep whose end the clock cannot count ends after thirty years. -/
theorem sleepEnd_of_far {now : Nat} {d : Duration} (h : 0x8000000000000000 ≤ now / 1000 + d.secs) :
    sleepEnd now d = now + longestSleep := if_pos h

theorem le_sleepEnd (now : Nat) (d : Duration) : now ≤ sleepEnd now d := by
  unfold sleepEnd
  split <;> omega

/-! ## The schedule -/

/-- When background fetches begin: a wait after a moment, and again and again a wait after the last one
ended, as long as the policy says after an end of its kind. Given are the times at which they end and
whether they succeed; the last time is that of the one to come. -/
def polls (p : Policy) (wait : Duration) (since : Nat) : List (Nat × Bool) → List Nat
  | [] => [sleepEnd since wait]
  | (time, succeeded) :: rest => sleepEnd since wait :: polls p (p.nextWait wait succeeded) time rest

/-- When the timer of a page fetches, and why. A page that was mounted warm is checked first; its
background fetches begin to count when the check has ended, however it did. -/
def planned (p : Policy) (warm : Bool) (since : Nat) (ends : List (Nat × Bool)) :
    List (Nat × Fetch.Mode) :=
  if warm then
    (sleepEnd since p.revalidateDelay, .revalidate) ::
      match ends with
      | [] => []
      | (time, _) :: rest => (polls p p.interval time rest).map (·, .background)
  else (polls p p.interval since ends).map (·, .background)

/-- The wait that a timer counts after background fetches have ended. -/
def lastWait (p : Policy) (wait : Duration) (ends : List (Nat × Bool)) : Duration :=
  ends.foldl (fun wait e => p.nextWait wait e.2) wait

/-- The wait that the timer of a page counts; the check of a warm one does not count. -/
def waitNow (p : Policy) (warm : Bool) (ends : List (Nat × Bool)) : Duration :=
  lastWait p p.interval (if warm then ends.tail else ends)

/-- Why the timer of a page fetches next. -/
def nextMode (warm : Bool) (ends : List (Nat × Bool)) : QuietMode :=
  if warm && ends.isEmpty then .revalidate else .background

variable {p : Policy} {warm : Bool} {since : Nat}

theorem polls_concat (p : Policy) (wait : Duration) (since : Nat) (ends : List (Nat × Bool))
    (time : Nat) (succeeded : Bool) : polls p wait since (ends ++ [(time, succeeded)]) =
      polls p wait since ends ++ [sleepEnd time (p.nextWait (lastWait p wait ends) succeeded)] := by
  induction ends generalizing wait since with
  | nil => rfl
  | cons e ends ih =>
    obtain ⟨time', succeeded'⟩ := e
    simp only [List.cons_append, polls, ih]
    rfl

theorem lastWait_concat (p : Policy) (wait : Duration) (ends : List (Nat × Bool)) (e : Nat × Bool) :
    lastWait p wait (ends ++ [e]) = p.nextWait (lastWait p wait ends) e.2 := by
  rw [lastWait, List.foldl_append]
  rfl

/-- The wait after the end of a fetch is the one that the timer counts from then on. -/
theorem waitNow_concat {t : Timer} {ends : List (Nat × Bool)} (policy : t.policy = p)
    (wait : t.wait = waitNow p warm ends) (time : Nat) (succeeded : Bool) :
    waitNow p warm (ends ++ [(time, succeeded)]) = waitAfter t (nextMode warm ends) succeeded := by
  unfold waitAfter nextMode
  rw [policy, wait]
  cases warm with
  | false => exact lastWait_concat p p.interval ends (time, succeeded)
  | true =>
    cases ends with
    | nil => rfl
    | cons e ends => exact lastWait_concat p p.interval ends (time, succeeded)

/-- The end of a fetch adds the next one to the schedule. -/
theorem planned_concat (p : Policy) (warm : Bool) (since : Nat) (ends : List (Nat × Bool)) (time : Nat)
    (succeeded : Bool) : planned p warm since (ends ++ [(time, succeeded)]) =
      planned p warm since ends ++
        [(sleepEnd time (waitNow p warm (ends ++ [(time, succeeded)])), .background)] := by
  cases warm with
  | false =>
    have hwait := lastWait_concat p p.interval ends (time, succeeded)
    simp [planned, waitNow, polls_concat, hwait]
  | true =>
    cases ends with
    | nil => rfl
    | cons e ends =>
      have hwait := lastWait_concat p p.interval ends (time, succeeded)
      simp [planned, waitNow, polls_concat, hwait]

theorem planned_nil (p : Policy) (warm : Bool) (since : Nat) : planned p warm since [] =
    [(sleepEnd since (if warm then p.revalidateDelay else p.interval), (nextMode warm []).val)] := by
  cases warm <;> rfl

/-- The schedule has one more fetch than have ended. -/
theorem length_planned (p : Policy) (warm : Bool) (since : Nat) (ends : List (Nat × Bool)) :
    (planned p warm since ends).length = ends.length + 1 := by
  induction ends using List.reverseRecOn with
  | nil => rw [planned_nil]; rfl
  | append_singleton ends e ih =>
    rw [planned_concat, List.length_append, ih, List.length_append]
    rfl

/-- Why the last fetch of the schedule is made. -/
theorem mode_of_planned {ends : List (Nat × Bool)} {earlier : List (Nat × Fetch.Mode)}
    {last : Nat × Fetch.Mode} (h : planned p warm since ends = earlier ++ [last]) :
    last.2 = (nextMode warm ends).val := by
  have hlast := congrArg List.getLast? h
  rw [List.getLast?_concat] at hlast
  induction ends using List.reverseRecOn with
  | nil =>
    rw [planned_nil] at hlast
    obtain rfl := Option.some.inj hlast
    rfl
  | append_singleton ends e =>
    obtain ⟨time, succeeded⟩ := e
    rw [planned_concat, List.getLast?_concat] at hlast
    obtain rfl := Option.some.inj hlast
    simp [nextMode, Fetch.QuietMode.background]

/-- A page that was mounted warm is checked once, at first, and one that was not is never checked. -/
theorem mode_planned {ends : List (Nat × Bool)} {i : Nat} {start : Nat × Fetch.Mode}
    (h : (planned p warm since ends)[i]? = some start) :
    start.2 = .revalidate ↔ warm = true ∧ i = 0 := by
  have hbackground {times : List Nat} {k : Nat}
      (hk : (times.map fun time => (time, Fetch.Mode.background))[k]? = some start) :
      start.2 ≠ .revalidate := by
    rw [List.getElem?_map] at hk
    obtain ⟨time, -, rfl⟩ := Option.map_eq_some_iff.1 hk
    simp
  cases warm with
  | false => simpa using hbackground h
  | true =>
    cases i with
    | zero =>
      obtain rfl := Option.some.inj h
      simp
    | succ i =>
      cases ends with
      | nil => cases h
      | cons e ends => simpa using hbackground h

/-- Each fetch of the schedule begins when the one before has ended, or later. -/
theorem le_planned {ends : List (Nat × Bool)} {i : Nat} {start : Nat × Fetch.Mode} {e : Nat × Bool}
    (h : (planned p warm since ends)[i + 1]? = some start) (ended : ends[i]? = some e) :
    e.1 ≤ start.1 := by
  induction ends using List.reverseRecOn with
  | nil => cases ended
  | append_singleton ends last ih =>
    obtain ⟨time, succeeded⟩ := last
    have hlength := length_planned p warm since ends
    rw [planned_concat] at h
    rcases Nat.lt_or_ge i ends.length with hlt | hge
    · rw [List.getElem?_append_left (by omega)] at h
      rw [List.getElem?_append_left hlt] at ended
      exact ih h ended
    · have hi : i < (ends ++ [(time, succeeded)]).length := (List.getElem?_eq_some_iff.1 ended).1
      rw [List.length_append, List.length_singleton] at hi
      obtain rfl : i = ends.length := by omega
      rw [List.getElem?_concat_length] at ended
      rw [← hlength, List.getElem?_concat_length] at h
      obtain rfl := Option.some.inj ended
      obtain rfl := Option.some.inj h
      exact le_sleepEnd _ _

/-- How the check of a warm page ended does not matter to the schedule. -/
theorem planned_check (p : Policy) (since time : Nat) (rest : List (Nat × Bool)) :
    planned p true since ((time, true) :: rest) = planned p true since ((time, false) :: rest) := rfl

end World

/-! ## Keeping to the schedule -/

namespace Session

/-- When the fetches of a session have begun, and why. -/
def starts (s : Session) : List (Nat × Fetch.Mode) := (s.begun.map fun f => (f.time, f.job.mode)).reverse

/-- When the fetches of a session have ended, and whether they succeeded. -/
def ends (s : Session) : List (Nat × Bool) := (s.ended.map fun x => (x.time, x.succeeded)).reverse

/-- A fetch ends after it has begun, and before its time is up. -/
structure Within (timeout : Duration) (f : BegunFetch) (x : EndedFetch) : Prop where
  same : x.job.id = f.job.id
  after : f.time ≤ x.time
  limit : x.time ≤ World.sleepEnd f.time timeout

open World in
/-- Where a session is in its schedule: the timer aims at the next time of it, or it has set out at that
time, or it has just put that fetch in line, or the fetch is under way. -/
inductive OnCourse (p : Policy) (warm : Bool) (since now : Nat) (s : Session) : Prop
  | aims {t : Timer} {till : Nat} {mode : QuietMode}
      (aim : Timer.aim? now s.timer = some (t, till, mode)) (idle : s.jobs = [])
      (wait : t.wait = waitNow p warm s.ends)
      (plan : planned p warm since s.ends = s.starts ++ [(till, mode.val)]) (early : now ≤ till)
      (past : List.Forall₂ (Within p.timeout) s.begun s.ended)
  | setsOut {mode : QuietMode} (stage : s.timer.stage = .dispatching mode false) (idle : s.jobs = [])
      (wait : s.timer.wait = waitNow p warm s.ends)
      (plan : planned p warm since s.ends = s.starts ++ [(now, mode.val)])
      (past : List.Forall₂ (Within p.timeout) s.begun s.ended)
  | waits {mode : QuietMode} {job : Job} (stage : s.timer.stage = .awaiting job.id mode)
      (alone : s.jobs = [job]) (fresh : job.stage = .spawned) (why : job.mode = mode)
      (policy : job.policy = p) (wait : s.timer.wait = waitNow p warm s.ends)
      (plan : planned p warm since s.ends = s.starts ++ [(now, mode.val)])
      (past : List.Forall₂ (Within p.timeout) s.begun s.ended)
  | runs {mode : QuietMode} {job : Job} (stage : s.timer.stage = .awaiting job.id mode)
      (alone : s.jobs = [job]) {endsAt : Nat} {result : Except Fetch.Failure Json}
      (running : job.stage = .running endsAt result) (wait : s.timer.wait = waitNow p warm s.ends)
      (plan : planned p warm since s.ends = s.starts) {f : BegunFetch} {earlier : List BegunFetch}
      (begun : s.begun = f :: earlier) (same : job.id = f.job.id) (why : f.job.mode = mode)
      (after : f.time ≤ now) (early : now ≤ endsAt) (limit : endsAt ≤ sleepEnd f.time p.timeout)
      (past : List.Forall₂ (Within p.timeout) earlier s.ended)

/-- A session keeps its schedule. -/
structure OnTime (p : Policy) (warm : Bool) (since now : Nat) (s : Session) : Prop where
  policy : s.timer.policy = p
  course : OnCourse p warm since now s

variable {p : Policy} {warm : Bool} {since now : Nat} {s s' : Session}

/-- A session that has just been mounted is at the start of its schedule. -/
theorem onTime_mounted (p : Policy) (sections : List Section) (warm : Bool) (now : Nat) :
    OnTime p warm now now ⟨⟨p, sections, p.interval, .fresh warm⟩, [], [], []⟩ := by
  refine ⟨rfl, ?_⟩
  cases warm with
  | true => exact .aims rfl rfl rfl rfl (World.le_sleepEnd _ _) .nil
  | false => exact .aims rfl rfl rfl rfl (World.le_sleepEnd _ _) .nil

theorem aim?_of_awaiting {t : Timer} {id : Nat} {mode : QuietMode} (h : t.stage = .awaiting id mode) :
    World.Timer.aim? now t = none := by simp only [World.Timer.aim?, h]

theorem aim?_of_dispatching {t : Timer} {mode : QuietMode} {aborted : Bool}
    (h : t.stage = .dispatching mode aborted) : World.Timer.aim? now t = none := by
  simp only [World.Timer.aim?, h]

theorem hear_of_awaiting {t : Timer} {id : Nat} {mode : QuietMode} (h : t.stage = .awaiting id mode)
    (succeeded : Bool) :
    World.Timer.hear id succeeded t = { t with stage := .answered mode succeeded } := by
  simp only [World.Timer.hear, h, if_true]

open World in
/-- When the fetch that a timer waits for has ended, the timer sets out to the next time of its
schedule. -/
theorem onCourse_ended {job : Job} {mode : QuietMode} (policy : s.timer.policy = p)
    (stage : s.timer.stage = .awaiting job.id mode) (wait : s.timer.wait = waitNow p warm s.ends)
    {begun : List BegunFetch} {earlier : List (Nat × Fetch.Mode)} {start : Nat}
    (starts : (begun.map fun f => (f.time, f.job.mode)).reverse = earlier ++ [(start, mode.val)])
    (plan : planned p warm since s.ends = earlier ++ [(start, mode.val)]) (o : Fetch.Outcome)
    (past : List.Forall₂ (Within p.timeout) begun (⟨now, job, o⟩ :: s.ended)) :
    OnCourse p warm since now
      ⟨Timer.hear job.id o.result.isOk s.timer, [], begun, ⟨now, job, o⟩ :: s.ended⟩ := by
  have hends : Session.ends ⟨Timer.hear job.id o.result.isOk s.timer, [], begun,
      ⟨now, job, o⟩ :: s.ended⟩ = s.ends ++ [(now, o.result.isOk)] := by
    simp [Session.ends, EndedFetch.succeeded]
  have hmode : mode = nextMode warm s.ends := Subtype.ext (mode_of_planned plan)
  have hwait := waitNow_concat policy wait now o.result.isOk
  have hplan := planned_concat p warm since s.ends now o.result.isOk
  have haim : Timer.aim? now (Timer.hear job.id o.result.isOk s.timer) =
      some ({ s.timer with
          wait := waitAfter s.timer mode o.result.isOk
          stage := .answered mode o.result.isOk },
        sleepEnd now (waitAfter s.timer mode o.result.isOk), .background) := by
    rw [hear_of_awaiting stage]
    rfl
  rw [← hmode] at hwait
  refine .aims haim rfl ?_ ?_ (le_sleepEnd _ _) past
  · rw [hends]
    exact hwait.symm
  · rw [hends, hplan, plan, hwait]
    show _ = (begun.map fun f => (f.time, f.job.mode)).reverse ++ _
    rw [starts]
    rfl

/-- A step of the session keeps the schedule. -/
theorem OnTime.step (h : OnTime p warm since now s) (step : Step now s s') :
    OnTime p warm since now s' := by
  obtain ⟨policy, course⟩ := h
  cases course with
  | aims aim idle wait plan early past =>
    obtain ⟨hsame, -⟩ := World.Timer.same_of_aim? aim
    cases step with
    | rests => exact ⟨policy, .aims aim idle wait plan early past⟩
    | sleeps aim' early' =>
      obtain ⟨rfl, rfl, rfl⟩ : _ ∧ _ ∧ _ := by simpa using aim.symm.trans aim'
      exact ⟨hsame.trans policy, .aims rfl idle wait plan early past⟩
    | setsOut aim' due =>
      obtain ⟨rfl, rfl, rfl⟩ : _ ∧ _ ∧ _ := by simpa using aim.symm.trans aim'
      obtain rfl := Nat.le_antisymm due early
      exact ⟨hsame.trans policy, .setsOut rfl idle wait plan past⟩
    | fetches stage => cases (aim?_of_dispatching stage).symm.trans aim
    | begins alone | answers alone | ends alone =>
      rw [idle] at alone
      cases alone
  | @setsOut mode stage idle wait plan past =>
    have hnone : World.Timer.aim? now s.timer = none := aim?_of_dispatching stage
    cases step with
    | rests => exact ⟨policy, .setsOut stage idle wait plan past⟩
    | sleeps aim | setsOut aim => cases hnone.symm.trans aim
    | fetches stage' job fresh why hpolicy =>
      obtain ⟨rfl, rfl⟩ : _ ∧ _ := by simpa using stage.symm.trans stage'
      refine ⟨policy, .waits rfl ?_ fresh why (hpolicy.trans policy) wait plan past⟩
      show s.jobs ++ [job] = [job]
      rw [idle, List.nil_append]
    | begins alone | answers alone | ends alone =>
      rw [idle] at alone
      cases alone
  | @waits mode job stage alone fresh why hpolicy wait plan past =>
    have hnone : World.Timer.aim? now s.timer = none := aim?_of_awaiting stage
    cases step with
    | rests => exact ⟨policy, .waits stage alone fresh why hpolicy wait plan past⟩
    | sleeps aim | setsOut aim => cases hnone.symm.trans aim
    | fetches stage' => cases stage.symm.trans stage'
    | @begins job' alone' fresh' endsAt result early limit =>
      obtain rfl := List.singleton_inj.1 (alone.symm.trans alone')
      have hstarts : Session.starts { s with
          jobs := [{ job with stage := .running endsAt result }]
          begun := ⟨now, job⟩ :: s.begun } = s.starts ++ [(now, mode.val)] := by
        simp [Session.starts, why]
      rw [hpolicy] at limit
      let running : Job := { job with stage := .running endsAt result }
      have hstage : s.timer.stage = .awaiting running.id mode := stage
      exact ⟨policy, .runs hstage rfl rfl wait (plan.trans hstarts.symm) rfl rfl why (Nat.le_refl _)
        (Nat.le_of_lt early) limit past⟩
    | @answers job' alone' fresh' o =>
      obtain rfl := List.singleton_inj.1 (alone.symm.trans alone')
      have hpolicy' : (World.Timer.hear job.id o.result.isOk s.timer).policy = p := by
        rw [hear_of_awaiting stage]
        exact policy
      have hstarts : (((⟨now, job⟩ : BegunFetch) :: s.begun).map fun f => (f.time, f.job.mode)).reverse =
          s.starts ++ [(now, mode.val)] := by
        simp [Session.starts, why]
      have hwithin : Within p.timeout ⟨now, job⟩ ⟨now, job, o⟩ :=
        ⟨rfl, Nat.le_refl _, World.le_sleepEnd _ _⟩
      exact ⟨hpolicy', onCourse_ended policy stage wait hstarts plan o (past.cons hwithin)⟩
    | ends alone' running =>
      obtain rfl := List.singleton_inj.1 (alone.symm.trans alone')
      cases fresh.symm.trans running
  | @runs mode job stage alone endsAt result running wait plan f earlier begun same why after early limit
      past =>
    have hnone : World.Timer.aim? now s.timer = none := aim?_of_awaiting stage
    cases step with
    | rests =>
      exact ⟨policy, .runs stage alone running wait plan begun same why after early limit past⟩
    | sleeps aim | setsOut aim => cases hnone.symm.trans aim
    | fetches stage' => cases stage.symm.trans stage'
    | begins alone' fresh | answers alone' fresh =>
      obtain rfl := List.singleton_inj.1 (alone.symm.trans alone')
      cases fresh.symm.trans running
    | @ends job' alone' endsAt' result' running' due o =>
      obtain rfl := List.singleton_inj.1 (alone.symm.trans alone')
      obtain ⟨rfl, rfl⟩ : endsAt = endsAt' ∧ result = result' := by
        simpa using running.symm.trans running'
      obtain rfl := Nat.le_antisymm due early
      have hpolicy' : (World.Timer.hear job.id o.result.isOk s.timer).policy = p := by
        rw [hear_of_awaiting stage]
        exact policy
      have hstarts : s.starts = (earlier.map fun f => (f.time, f.job.mode)).reverse ++
          [(f.time, mode.val)] := by
        simp [Session.starts, begun, why]
      refine ⟨hpolicy', onCourse_ended policy stage wait hstarts (plan.trans hstarts) o ?_⟩
      rw [begun]
      exact past.cons ⟨same, after, limit⟩

/-- What a session that keeps its schedule is at: the fetches that have begun are those of the schedule,
and all but the last have ended in time. Either the next one is still to come, or the last one is under
way and its time is not up. -/
structure UpTo (p : Policy) (warm : Bool) (since now : Nat) (s : Session) (current : List BegunFetch)
    (past : List BegunFetch) : Prop where
  begun : s.begun = current ++ past
  ended : List.Forall₂ (Within p.timeout) past s.ended
  single : current.length ≤ 1
  coming : current = [] → ∃ next, World.planned p warm since s.ends = s.starts ++ [next] ∧ now ≤ next.1
  running : ∀ f ∈ current, World.planned p warm since s.ends = s.starts ∧ f.time ≤ now ∧
    now ≤ World.sleepEnd f.time p.timeout

theorem OnTime.upTo (h : OnTime p warm since now s) :
    ∃ current past, UpTo p warm since now s current past := by
  cases h.course with
  | aims aim idle wait plan early past =>
    exact ⟨[], s.begun, rfl, past, Nat.zero_le _, fun _ => ⟨_, plan, early⟩, List.forall_mem_nil _⟩
  | setsOut stage idle wait plan past =>
    exact ⟨[], s.begun, rfl, past, Nat.zero_le _, fun _ => ⟨_, plan, Nat.le_refl _⟩,
      List.forall_mem_nil _⟩
  | waits stage alone fresh why policy wait plan past =>
    exact ⟨[], s.begun, rfl, past, Nat.zero_le _, fun _ => ⟨_, plan, Nat.le_refl _⟩,
      List.forall_mem_nil _⟩
  | @runs mode job stage alone endsAt result running wait plan f earlier begun same why after early limit
      past =>
    exact ⟨[f], earlier, begun, past, Nat.le_refl _, nofun,
      List.forall_mem_singleton.2 ⟨plan, after, early.trans limit⟩⟩

theorem UpTo.starts_prefix {current past : List BegunFetch} (u : UpTo p warm since now s current past) :
    s.starts <+: World.planned p warm since s.ends := by
  cases current with
  | nil =>
    obtain ⟨next, hplan, -⟩ := u.coming rfl
    rw [hplan]
    exact List.prefix_append _ _
  | cons f rest =>
    have hplan := (u.running f List.mem_cons_self).1
    exact hplan ▸ List.prefix_rfl

end Session

namespace World

variable {w : World} {p : Policy} {warm : Bool} {since n : Nat} {s : Session}

/-- A page that has just been mounted is at the start of its schedule. -/
theorem onTime_mount (o : Owned w) (policy : Policy) (sections : List Section) :
    ∃ s, (w.mount policy sections).session? w.mounted.length = some s ∧
      s.OnTime policy (w.read policy.key).isSome w.now (w.mount policy sections).now := by
  refine ⟨_, session?_mount o policy sections, ?_⟩
  have hnow : (w.mount policy sections).now = w.now := move_now (m := .mount policy sections) (by simp)
  rw [hnow]
  exact Session.onTime_mounted policy sections _ w.now

/-- A movement of the clock in time keeps the schedule. -/
theorem onTime_clock (o : Orderly w) (hs : w.session? n = some s)
    (h : s.OnTime p warm since w.now) {time : Nat} (rests : Rests w) (forward : w.now ≤ time)
    (next : ∀ due ∈ w.dueTimes, time ≤ due) : s.OnTime p warm since time := by
  obtain ⟨htimer, hjobs, -, -⟩ := session?_eq_some_iff.1 hs
  have hwaits {job : Job} (alone : s.jobs = [job]) : job ∈ w.jobs := by
    have hmem : job ∈ w.jobs.filter (·.isQuietFor n) := by
      rw [hjobs, alone]
      exact List.mem_singleton_self job
    exact (List.mem_filter.1 hmem).1
  refine ⟨h.policy, ?_⟩
  cases h.course with
  | aims aim idle wait plan early past =>
    obtain ⟨hstage, -, hdue⟩ := rests.timer htimer aim
    have hasleep (now : Nat) {till : Nat} {mode : QuietMode} (hs : s.timer.stage = .sleeping till mode) :
        Timer.aim? now s.timer = some (s.timer, till, mode) := by simp only [Timer.aim?, hs]
    obtain rfl := (Prod.ext_iff.1 (Option.some.inj (aim.symm.trans (hasleep w.now hstage)))).1
    exact .aims (hasleep time hstage) idle wait plan (next _ hdue) past
  | setsOut stage => exact absurd stage (rests.not_dispatching htimer)
  | waits stage alone fresh why policy wait plan past =>
    obtain ⟨endsAt, result, hrunning, -⟩ := rests.job o.accounts (hwaits alone)
    cases fresh.symm.trans hrunning
  | runs stage alone running wait plan begun same why after early limit past =>
    obtain ⟨endsAt, result, hrunning, -, hdue⟩ := rests.job o.accounts (hwaits alone)
    obtain ⟨rfl, -⟩ : _ ∧ _ := by simpa using running.symm.trans hrunning
    exact .runs stage alone running wait plan begun same why (after.trans forward) (next _ hdue) limit
      past

theorem onTime_move (o : Orderly w) (hs : w.session? n = some s) (h : s.OnTime p warm since w.now)
    {m : Move} (inTime : InTime w m) (stays : m ≠ .unmount n) :
    ∃ s', (w.move m).session? n = some s' ∧ s'.OnTime p warm since (w.move m).now := by
  by_cases hclock : ∃ time, m = .clock time
  · obtain ⟨time, rfl⟩ := hclock
    obtain ⟨rests, forward, next⟩ := inTime
    exact ⟨s, hs, onTime_clock o hs h rests forward next⟩
  · have hnow := move_now (w := w) fun time hm => hclock ⟨time, hm⟩
    obtain ⟨s', hs', ⟨-, hstep⟩ | ⟨hgone, -⟩⟩ :=
      session_move o.accounts hs (o.attended n s hs) m
    · rw [hnow]
      exact ⟨s', hs', h.step hstep⟩
    · exact absurd hgone stays

/-- A session keeps its schedule in every run in time that does not unmount its binding. -/
theorem onTime_run (o : Orderly w) (hs : w.session? n = some s) (h : s.OnTime p warm since w.now)
    {moves : List Move} (prompt : Prompt w moves) (stays : .unmount n ∉ moves) :
    ∃ s', (w.run moves).session? n = some s' ∧ s'.OnTime p warm since (w.run moves).now := by
  induction moves generalizing w s with
  | nil => exact ⟨s, hs, h⟩
  | cons m moves ih =>
    have hfirst : m ≠ .unmount n := fun hm => stays (hm ▸ List.mem_cons_self)
    obtain ⟨s', hs', h'⟩ := onTime_move o hs h prompt.1 hfirst
    exact ih (o.move m) hs' h' prompt.2 fun hm => stays (List.mem_cons_of_mem _ hm)

/-- A session keeps its schedule whatever pages do while the clock moves, as long as its binding is not
unmounted. -/
theorem onTime_deeds (d : Driven w) (hs : w.session? n = some s) (h : s.OnTime p warm since w.now)
    {ds : List Deed} (mounts : ∀ m ∈ acts ds, ∀ q ∈ m.purpose?, 0 < q.policy.interval.nanos)
    (stays : .unmount n ∉ acts ds) :
    ∃ s', (w.deeds ds).session? n = some s' ∧ s'.OnTime p warm since (w.deeds ds).now := by
  obtain ⟨-, moves, hprompt, houtside, hrun⟩ := deeds_in_time d mounts
  have hmoves : .unmount n ∉ moves := by
    intro hmem
    refine stays ?_
    rw [← houtside]
    exact List.mem_filter.2 ⟨hmem, rfl⟩
  rw [← hrun]
  exact onTime_run d.orderly hs h hprompt hmoves

/-- What the timer of a page does while the page is mounted, in every run in time, whatever else happens:
the fetches that it has asked for are those of the schedule, in order. A page that was mounted warm is
checked once, first, and a cold one never. Each fetch of the timer ends before its time is up and before
the next one begins; the next one has not begun before its time, and the clock does not pass its time
without it. The schedule depends on when these fetches end and on whether the background fetches
succeed, and on nothing else. A wait takes exactly its milliseconds, unless it would end after the clock:
then it takes thirty years. -/
theorem polling_on_schedule (calendar : Int) (space : String) (storage : Cache.Storage)
    (servers : Servers) (before : List Move) (policy : Policy) (sections : List Section)
    (after : List Move)
    (prompt : Prompt (((start calendar space storage servers).run before).mount policy sections) after)
    (stays : .unmount ((start calendar space storage servers).run before).mounted.length ∉ after) :
    let w := (start calendar space storage servers).run before
    let v := (w.mount policy sections).run after
    let warm := (w.read policy.key).isSome
    (∃ s, v.session? w.mounted.length = some s ∧
      s.starts <+: planned policy warm w.now s.ends ∧
      (∀ i start, s.starts[i]? = some start → (start.2 = .revalidate ↔ warm = true ∧ i = 0)) ∧
      (∀ i start e, s.starts[i + 1]? = some start → s.ends[i]? = some e → e.1 ≤ start.1) ∧
      ∃ current past, Session.UpTo policy warm w.now v.now s current past) ∧
    (∀ time rest, planned policy true w.now ((time, true) :: rest) =
      planned policy true w.now ((time, false) :: rest)) ∧
    ∀ now millis, sleepEnd now (.ofMillis millis) =
      if now / 1000 + millis / 1000 < 0x8000000000000000 then now + millis else now + longestSleep := by
  intro w v warm
  have horderly : Orderly w := orderly_run (orderly_start calendar space storage servers) before
  obtain ⟨s₀, hs₀, hstart⟩ := onTime_mount horderly.owned policy sections
  obtain ⟨s, hs, htime⟩ := onTime_run (horderly.move (.mount policy sections)) hs₀ hstart prompt stays
  obtain ⟨current, past, hupTo⟩ := htime.upTo
  obtain ⟨coming, hplan⟩ := hupTo.starts_prefix
  have hmember {i : Nat} {start : Nat × Fetch.Mode} (h : s.starts[i]? = some start) :
      (planned policy warm w.now s.ends)[i]? = some start := by
    rw [← hplan, List.getElem?_append_left (List.getElem?_eq_some_iff.1 h).1, h]
  refine ⟨⟨s, hs, ⟨coming, hplan⟩, fun i start h => mode_planned (hmember h),
    fun i start e h he => le_planned (hmember h) he, current, past, hupTo⟩, planned_check policy w.now, ?_⟩
  intro now millis
  split
  · next hnear => exact sleepEnd_ofMillis hnear
  · next hfar =>
    refine sleepEnd_of_far ?_
    have hsecs : (Duration.ofMillis millis).secs = millis / 1000 := by
      simp only [Duration.secs, Duration.ofMillis, Duration.nanosPerMilli, Duration.nanosPerSec]
      omega
    rw [hsecs]
    exact Nat.le_of_not_lt hfar

/-! ## A page that is polled on time and a wait that is too long -/

/-- The world in which every request is answered at once with null. -/
def promptWorld : World := start 0 "" .empty fun _ _ => ⟨0, .ok .null⟩

/-- A cold page is mounted and fetched, and its timer fetches once when the clock is put at a time. -/
def firstPoll (time : Nat) : List Move :=
  [.goOn (.job 0), .goOn (.timer 0), .clock time, .goOn (.timer 0), .goOn (.timer 0), .goOn (.job 1)]

/-- The world once the timer of the page has gone to sleep. -/
def asleepWorld (p : Policy) : World := (promptWorld.mount p []).run [.goOn (.job 0), .goOn (.timer 0)]

/-- The run is in time if the timer sleeps until that very time. -/
theorem prompt_firstPoll {p : Policy} {time : Nat} (pos : 0 < time)
    (idle : (asleepWorld p).jobs.length = 0)
    (asleep : (asleepWorld p).timers.map (·.stage) = [.sleeping time .background])
    (due : (asleepWorld p).dueTimes = [time]) : Prompt (promptWorld.mount p []) (firstPoll time) := by
  have hnow : (asleepWorld p).now = 0 := by
    rw [asleepWorld, run_now (by simp)]
    exact move_now (m := .mount p []) (by simp)
  refine ⟨trivial, trivial, ⟨rests_of_asleep (List.length_eq_zero_iff.1 idle) ?_, ?_, ?_⟩, trivial,
    trivial, trivial, trivial⟩
  · intro stage hstage
    have hmem : stage ∈ (asleepWorld p).timers.map (·.stage) := hstage
    rw [asleep] at hmem
    refine ⟨time, .background, List.mem_singleton.1 hmem, ?_⟩
    show (asleepWorld p).now < time
    rw [hnow]
    exact pos
  · show (asleepWorld p).now ≤ time
    rw [hnow]
    exact Nat.zero_le _
  · show ∀ t ∈ (asleepWorld p).dueTimes, time ≤ t
    rw [due]
    simp

/-- A page that is mounted cold is fetched in the background after thirty seconds. -/
theorem poll_after_interval :
    let p := Policy.every "deals" (.ofSecs 30)
    Prompt (promptWorld.mount p []) (firstPoll 30000) ∧
      ∃ s, ((promptWorld.mount p []).run (firstPoll 30000)).session? 0 = some s ∧
        s.starts <+: planned p false 0 s.ends ∧ s.starts = [(30000, .background)] := by
  intro p
  have hprompt : Prompt (promptWorld.mount p []) (firstPoll 30000) :=
    prompt_firstPoll (by decide) (by decide +kernel) (by decide +kernel) (by decide +kernel)
  obtain ⟨s, hs, hprefix, -⟩ := (polling_on_schedule 0 "" .empty (fun _ _ => ⟨0, .ok .null⟩) [] p []
    (firstPoll 30000) hprompt (by simp [firstPoll])).1
  have hstarts : (((promptWorld.mount p []).run (firstPoll 30000)).session? 0).map (·.starts) =
      some [(30000, .background)] := by decide +kernel
  have hsession : ((promptWorld.mount p []).run (firstPoll 30000)).session? 0 = some s := hs
  rw [hsession] at hstarts
  exact ⟨hprompt, s, hs, hprefix, Option.some.inj hstarts⟩

/-- A wait that ends after the clock is cut short: the background fetch of a page with the longest
interval that can be set begins after thirty years, and the interval is far longer. -/
theorem long_wait_cut_short :
    let p := Policy.every "deals" (.ofSecs 0xffffffffffffffff)
    Prompt (promptWorld.mount p []) (firstPoll longestSleep) ∧
      (((promptWorld.mount p []).run (firstPoll longestSleep)).session? 0).map (·.starts) =
        some [(946080000000, .background)] ∧
      p.interval = .ofMillis 18446744073709551615000 := by
  refine ⟨prompt_firstPoll (by decide) ?_ ?_ ?_, ?_, by decide⟩
  · decide +kernel
  · decide +kernel
  · decide +kernel
  · decide +kernel

end World

end Lookout
