import Lookout.Proofs.World.Jobs
import Lookout.Proofs.World.Purposes
import Mathlib.Data.List.Nodup

/-!
# The session of a binding

A timer with the fetches that it has asked for: one at a time, and the timer waits for it. Fetches that
the user waits for run beside them and are not part of the session, so nothing that they do changes it.

* **`session_move`** — what a move does to the session of a binding.
* **`orderly_run`** — a timer that waits has one fetch under way, one that does not wait has none.
-/

namespace Lookout

/-- The fetch is one that the timer of the binding of a number asks for. -/
def Job.isQuietFor (n : Nat) (j : Job) : Bool := j.binding = n ∧ j.mode ≠ .foreground

/-- The timer of a binding with the fetches that it has asked for: those under way, and those that have
begun and ended, latest first. -/
structure Session where
  timer : Timer
  jobs : List Job
  begun : List BegunFetch
  ended : List EndedFetch

namespace Session

/-- A timer that waits has the fetch under way that it waits for, and one that does not has none. A timer
that has been stopped leaves at most one behind. -/
def Attended (s : Session) : Prop :=
  match s.timer.stage with
  | .awaiting id mode => ∃ j, s.jobs = [j] ∧ j.id = id ∧ j.mode = mode
  | .stopped => s.jobs.length ≤ 1
  | _ => s.jobs = []

/-- A session takes a step at a moment: nothing happens, the timer goes to sleep, it sets out, it spawns a
fetch, the fetch begins and will take its time, or it ends, at once or when its time has come. -/
inductive Step (now : Nat) (s : Session) : Session → Prop
  | rests : Step now s s
  | sleeps {t : Timer} {till : Nat} {mode : Fetch.QuietMode}
      (aim : World.Timer.aim? now s.timer = some (t, till, mode)) (early : now < till) :
      Step now s { s with timer := { t with stage := .sleeping till mode } }
  | setsOut {t : Timer} {till : Nat} {mode : Fetch.QuietMode}
      (aim : World.Timer.aim? now s.timer = some (t, till, mode)) (due : till ≤ now) :
      Step now s { s with timer := { t with stage := .dispatching mode false } }
  | fetches {mode : Fetch.QuietMode} {aborted : Bool} (stage : s.timer.stage = .dispatching mode aborted)
      (job : Job) (fresh : job.stage = .spawned) (why : job.mode = mode)
      (policy : job.policy = s.timer.policy) :
      Step now s { s with
        timer := { s.timer with stage := World.dispatched job.id mode aborted }
        jobs := s.jobs ++ [job] }
  | begins {job : Job} (alone : s.jobs = [job]) (fresh : job.stage = .spawned) {endsAt : Nat}
      (result : Except Fetch.Failure Json) (early : now < endsAt)
      (limit : endsAt ≤ World.sleepEnd now job.policy.timeout) :
      Step now s { s with
        jobs := [{ job with stage := .running endsAt result }]
        begun := ⟨now, job⟩ :: s.begun }
  | answers {job : Job} (alone : s.jobs = [job]) (fresh : job.stage = .spawned)
      (o : Fetch.Outcome) : Step now s
      { timer := World.Timer.hear job.id o.result.isOk s.timer
        jobs := []
        begun := ⟨now, job⟩ :: s.begun
        ended := ⟨now, job, o⟩ :: s.ended }
  | ends {job : Job} (alone : s.jobs = [job]) {endsAt : Nat} {result : Except Fetch.Failure Json}
      (running : job.stage = .running endsAt result) (due : endsAt ≤ now) (o : Fetch.Outcome) :
      Step now s
      { s with
        timer := World.Timer.hear job.id o.result.isOk s.timer
        jobs := []
        ended := ⟨now, job, o⟩ :: s.ended }

/-- The session once its timer has been aborted. -/
def abort (s : Session) : Session := { s with timer := World.Timer.abort s.timer }

/-- What a move at a moment does to the session of the binding of a number: the session takes a step, or
the binding is unmounted and its timer aborted. -/
def Change (now n : Nat) (m : Move) (s s' : Session) : Prop :=
  m ≠ .unmount n ∧ Step now s s' ∨ m = .unmount n ∧ s' = s.abort

variable {s s' : Session} {now : Nat}

theorem Attended.length_le (h : s.Attended) : s.jobs.length ≤ 1 := by
  unfold Attended at h
  split at h
  · obtain ⟨j, hj, -⟩ := h
    rw [hj]
    exact Nat.le_refl _
  · exact h
  · rw [h]
    exact Nat.zero_le _

/-- A fetch of the session that is under way is the only one. -/
theorem Attended.alone (h : s.Attended) {job : Job} (hjob : job ∈ s.jobs) : s.jobs = [job] := by
  have hlength := h.length_le
  have hpos := List.length_pos_of_mem hjob
  obtain ⟨j, hj⟩ := List.length_eq_one_iff.1 (Nat.le_antisymm hlength hpos)
  rw [hj] at hjob
  rw [hj, List.mem_singleton.1 hjob]

/-- A timer that sets out to fetch has no fetch under way. -/
theorem Attended.jobs_eq_nil (h : s.Attended) {aim : Timer × Nat × Fetch.QuietMode}
    (haim : World.Timer.aim? now s.timer = some aim) : s.jobs = [] := by
  unfold Attended at h
  unfold World.Timer.aim? at haim
  cases hstage : s.timer.stage with
  | fresh | sleeping | answered =>
    rw [hstage] at h
    exact h
  | dispatching | awaiting | stopped =>
    rw [hstage] at haim
    cases haim

/-- A timer that is about to spawn a fetch has no fetch under way. -/
theorem Attended.nil_of_dispatching (h : s.Attended) {mode : Fetch.QuietMode} {aborted : Bool}
    (stage : s.timer.stage = .dispatching mode aborted) : s.jobs = [] := by
  unfold Attended at h
  rw [stage] at h
  exact h

theorem Attended.abort (h : s.Attended) : s.abort.Attended := by
  unfold Session.abort World.Timer.abort
  split
  · next mode aborted stage => exact h.nil_of_dispatching stage
  · exact h.length_le

/-- When the only fetch under way ends, the timer that waits for it hears of it. -/
theorem Attended.hear (h : s.Attended) {job : Job} (alone : s.jobs = [job]) (succeeded : Bool)
    (begun : List BegunFetch) (ended : List EndedFetch) :
    Attended ⟨World.Timer.hear job.id succeeded s.timer, [], begun, ended⟩ := by
  unfold Attended at h
  cases hstage : s.timer.stage with
  | awaiting id mode =>
    rw [hstage] at h
    obtain ⟨j, hj, hid, -⟩ := h
    rw [alone] at hj
    obtain rfl := List.head_eq_of_cons_eq hj
    have hheard : World.Timer.hear job.id succeeded s.timer =
        { s.timer with stage := .answered mode succeeded } := by
      simp only [World.Timer.hear, hstage, hid, if_true]
    rw [hheard]
    rfl
  | stopped =>
    have hdeaf : World.Timer.hear job.id succeeded s.timer = s.timer := by
      simp only [World.Timer.hear, hstage]
    rw [hdeaf, Attended, hstage]
    exact Nat.zero_le _
  | fresh | sleeping | dispatching | answered =>
    rw [hstage] at h
    rw [alone] at h
    cases h

theorem Step.attended (h : s.Attended) (step : Step now s s') : s'.Attended := by
  cases step with
  | rests => exact h
  | sleeps aim early => exact h.jobs_eq_nil aim
  | setsOut aim due => exact h.jobs_eq_nil aim
  | @fetches mode aborted stage job fresh why policy =>
    have hjobs : s.jobs ++ [job] = [job] := by rw [h.nil_of_dispatching stage, List.nil_append]
    cases aborted with
    | true => exact Nat.le_of_eq (congrArg List.length hjobs)
    | false => exact ⟨job, hjobs, rfl, why⟩
  | @begins job alone fresh endsAt result early limit =>
    unfold Attended at h ⊢
    dsimp only
    split at h
    · obtain ⟨j, hj, hid, hmode⟩ := h
      rw [alone] at hj
      obtain rfl := List.head_eq_of_cons_eq hj
      exact ⟨_, rfl, hid, hmode⟩
    · exact Nat.le_refl _
    · rw [alone] at h
      cases h
  | answers alone fresh o => exact h.hear alone _ _ _
  | ends alone running due o => exact h.hear alone _ _ _

/-- A timer that has been aborted stays as it is, or spawns the fetch that it was about to spawn, and stops. -/
theorem Step.timer_of_isAborted (step : Step now s s') (h : World.Timer.IsAborted s.timer) :
    s'.timer = s.timer ∨
      (∃ mode, s.timer.stage = .dispatching mode true) ∧ s'.timer = { s.timer with stage := .stopped } := by
  cases step with
  | rests | begins => exact .inl rfl
  | sleeps aim | setsOut aim =>
    rw [World.Timer.aim?_of_isAborted h] at aim
    cases aim
  | @fetches mode aborted stage =>
    rcases h with h | ⟨mode', h⟩
    · cases stage.symm.trans h
    · obtain ⟨rfl, rfl⟩ : mode = mode' ∧ aborted = true := by simpa using stage.symm.trans h
      exact .inr ⟨⟨mode, h⟩, rfl⟩
  | answers | ends => exact .inl (World.Timer.hear_of_isAborted h _ _)

/-- A timer that has been aborted remains so. -/
theorem Step.isAborted (step : Step now s s') (h : World.Timer.IsAborted s.timer) :
    World.Timer.IsAborted s'.timer := by
  rcases step.timer_of_isAborted h with hsame | ⟨-, hstops⟩
  · rw [hsame]
    exact h
  · rw [hstops]
    exact .inl rfl

end Session

namespace World

/-- The session of the binding of a number. -/
def session? (w : World) (n : Nat) : Option Session :=
  w.timers[n]?.map fun t =>
    ⟨t, w.jobs.filter (·.isQuietFor n), w.begun.filter (·.job.isQuietFor n),
      w.ended.filter (·.job.isQuietFor n)⟩

theorem session?_eq_some_iff {w : World} {n : Nat} {s : Session} : w.session? n = some s ↔
    w.timers[n]? = some s.timer ∧ w.jobs.filter (·.isQuietFor n) = s.jobs ∧
      w.begun.filter (·.job.isQuietFor n) = s.begun ∧
      w.ended.filter (·.job.isQuietFor n) = s.ended := by
  obtain ⟨timer, jobs, begun, ended⟩ := s
  simp only [session?, Option.map_eq_some_iff, Session.mk.injEq]
  constructor
  · rintro ⟨t, ht, rfl, hrest⟩
    exact ⟨ht, hrest⟩
  · rintro ⟨ht, hrest⟩
    exact ⟨timer, ht, rfl, hrest⟩

theorem session?_of_mounted {w : World} {n : Nat} {m : Mounted} (h : w.mounted[n]? = some m) :
    w.session? n = some ⟨m.timer, w.jobs.filter (·.isQuietFor n), w.begun.filter (·.job.isQuietFor n),
      w.ended.filter (·.job.isQuietFor n)⟩ := by
  rw [session?, getElem?_timers h]
  rfl

/-! ## Fetches of others -/

/-- Two fetches under way with one number are the same. -/
theorem Accounts.eq_of_id {w : World} (a : Accounts w) {j k : Job} (hj : j ∈ w.jobs) (hk : k ∈ w.jobs)
    (h : j.id = k.id) : j = k := List.inj_on_of_nodup_map a.nodup_jobs hj hk h

/-- A fetch under way is found by its number. -/
theorem Accounts.find?_id {w : World} (a : Accounts w) {j : Job} (hj : j ∈ w.jobs) :
    w.jobs.find? (·.id = j.id) = some j := by
  have hsome : (w.jobs.find? (·.id = j.id)).isSome :=
    List.find?_isSome.2 ⟨j, hj, decide_eq_true rfl⟩
  obtain ⟨k, hk⟩ := Option.isSome_iff_exists.1 hsome
  have hid : k.id = j.id := by simpa using List.find?_some hk
  rw [hk, a.eq_of_id (List.mem_of_find?_eq_some hk) hj hid]

/-- The fetches of a session stay those of the session when one begins. -/
theorem filter_setRunning (w : World) (n : Nat) (job : Job) (endsAt : Nat)
    (result : Except Fetch.Failure Json) :
    (w.setRunning job endsAt result).jobs.filter (·.isQuietFor n) =
      (w.jobs.filter (·.isQuietFor n)).map fun j =>
        if j.id = job.id then { j with stage := .running endsAt result } else j := by
  rw [setRunning, List.filter_map]
  refine congrArg (List.map _) (List.filter_congr fun j _ => ?_)
  dsimp only [Function.comp]
  split <;> rfl

/-- What a fetch of another does leaves those of the session under way. -/
theorem filter_setRunning_other {w : World} (a : Accounts w) {n : Nat} {job : Job}
    (waits : job ∈ w.jobs) (other : job.isQuietFor n = false) (endsAt : Nat)
    (result : Except Fetch.Failure Json) :
    (w.setRunning job endsAt result).jobs.filter (·.isQuietFor n) =
      w.jobs.filter (·.isQuietFor n) := by
  rw [filter_setRunning]
  refine (List.map_congr_left fun j hj => ?_).trans (List.map_id _)
  obtain ⟨hmem, hown⟩ := List.mem_filter.1 hj
  rw [if_neg]
  · rfl
  · intro hid
    rw [a.eq_of_id hmem waits hid, other] at hown
    cases hown

/-- The fetch of the session begins. -/
theorem filter_setRunning_own {w : World} {n : Nat} {job : Job}
    (alone : w.jobs.filter (·.isQuietFor n) = [job]) (endsAt : Nat)
    (result : Except Fetch.Failure Json) :
    (w.setRunning job endsAt result).jobs.filter (·.isQuietFor n) =
      [{ job with stage := .running endsAt result }] := by
  rw [filter_setRunning, alone, List.map_singleton, if_pos rfl]

theorem filter_remove_other {w : World} (a : Accounts w) {n : Nat} {job : Job} (waits : job ∈ w.jobs)
    (other : job.isQuietFor n = false) :
    (w.jobs.filter (·.id ≠ job.id)).filter (·.isQuietFor n) = w.jobs.filter (·.isQuietFor n) := by
  rw [List.filter_comm, List.filter_eq_self]
  intro j hj
  obtain ⟨hmem, hown⟩ := List.mem_filter.1 hj
  have hne : j.id ≠ job.id := by
    intro hid
    rw [a.eq_of_id hmem waits hid, other] at hown
    cases hown
  simpa using hne

theorem filter_remove_own {jobs : List Job} {n : Nat} {job : Job}
    (alone : jobs.filter (·.isQuietFor n) = [job]) :
    (jobs.filter (·.id ≠ job.id)).filter (·.isQuietFor n) = [] := by
  rw [List.filter_comm, alone]
  simp

/-- A timer does not hear of the fetches of others. -/
theorem hear_other {w : World} (a : Accounts w) {n : Nat} {s : Session} (hs : w.session? n = some s)
    (attended : s.Attended) {job : Job} (waits : job ∈ w.jobs) (other : job.isQuietFor n = false)
    (succeeded : Bool) :
    (w.timers.modify job.binding (Timer.hear job.id succeeded))[n]? = some s.timer := by
  obtain ⟨htimer, hjobs, -, -⟩ := session?_eq_some_iff.1 hs
  rw [List.getElem?_modify, htimer]
  split
  · -- The timer of the binding waits for another fetch, since this one is not its own.
    have hdeaf : Timer.hear job.id succeeded s.timer = s.timer := by
      refine Timer.hear_of_not_awaits ?_ succeeded
      unfold Session.Attended at attended
      cases hstage : s.timer.stage with
      | awaiting id mode =>
        rw [hstage] at attended
        obtain ⟨j, hj, hid, -⟩ := attended
        have hown : j ∈ w.jobs.filter (·.isQuietFor n) := by
          rw [hjobs, hj]
          exact List.mem_singleton_self j
        obtain ⟨hmem, hquiet⟩ := List.mem_filter.1 hown
        simp only [Timer.awaits, hstage, decide_eq_false_iff_not]
        intro heq
        rw [a.eq_of_id hmem waits (hid.trans heq), other] at hquiet
        cases hquiet
      | fresh | sleeping | dispatching | answered | stopped => simp only [Timer.awaits, hstage]
    simp [hdeaf]
  · rfl

/-! ## What moves do to sessions -/

/-- The result of a fetch that ends tells whether it succeeded. -/
theorem isOk_outcomeOf (w : World) (job : Job) (result : Except Fetch.Failure Json) :
    (w.outcomeOf job result).result.isOk = result.isOk := by
  cases result <;> rfl

/-- A fetch ends in time. -/
theorem beginFetch_limit (w : World) (job : Job) :
    (w.beginFetch job).2.1 ≤ sleepEnd w.now job.policy.timeout := by
  simp only [beginFetch, ask_now, ending]
  split
  · next hle => exact hle
  · exact Nat.le_refl _

theorem isQuietFor_of_ne {n : Nat} {job : Job} (h : job.binding ≠ n) : job.isQuietFor n = false := by
  simp [Job.isQuietFor, h]

/-- A fetch that joins the line and is not one of the session. -/
theorem filter_concat_other {jobs : List Job} {n : Nat} {job : Job}
    (other : job.isQuietFor n = false) :
    (jobs ++ [job]).filter (·.isQuietFor n) = jobs.filter (·.isQuietFor n) := by
  simp [List.filter_append, other]

/-- What a move does to the books does one step to the session of a binding, or aborts its timer. -/
theorem Effect.session {w : World} (a : Accounts w) {n : Nat} {s : Session}
    (hs : w.session? n = some s) (attended : s.Attended) {m : Move} {b : Books} (e : Effect w m b)
    {v : World} (hv : v.books = b) :
    ∃ s', v.session? n = some s' ∧ Session.Change w.now n m s s' := by
  obtain ⟨htimer, hjobs, hbegun, hended⟩ := session?_eq_some_iff.1 hs
  have hview {s' : Session} (change : Session.Change w.now n m s s')
      (timer : b.timers[n]? = some s'.timer) (jobs : b.jobs.filter (·.isQuietFor n) = s'.jobs)
      (begun : b.begun.filter (·.job.isQuietFor n) = s'.begun)
      (ended : b.ended.filter (·.job.isQuietFor n) = s'.ended) :
      ∃ s', v.session? n = some s' ∧ Session.Change w.now n m s s' := by
    subst hv
    exact ⟨s', session?_eq_some_iff.2 ⟨timer, jobs, begun, ended⟩, change⟩
  have hrests (stays : m ≠ .unmount n) (timer : b.timers[n]? = some s.timer) :=
    hview (.inl ⟨stays, .rests⟩) timer
  have hsame {k : Nat} (hk : k ≠ n) (f : Timer → Timer) :
      (w.timers.modify k f)[n]? = some s.timer := by
    rw [List.getElem?_modify_ne _ _ hk, htimer]
  have hset {k : Nat} (hk : k = n) (f : Timer → Timer) :
      (w.timers.modify k f)[n]? = some (f s.timer) := by
    rw [hk, List.getElem?_modify_eq, htimer]
    rfl
  -- A fetch of the session is the only one of it.
  have halone {job : Job} (waits : job ∈ w.jobs) (hown : job.isQuietFor n = true) :
      s.jobs = [job] ∧ job.binding = n := by
    refine ⟨attended.alone (hjobs ▸ List.mem_filter.2 ⟨waits, hown⟩), ?_⟩
    simp only [Job.isQuietFor, decide_eq_true_eq] at hown
    exact hown.1
  cases e with
  | rests stays =>
    have hstays : m ≠ .unmount n := by
      rintro rfl
      cases stays
    exact hrests hstays htimer hjobs hbegun hended
  | mounts policy sections =>
    let first : Job := ⟨w.nextJob, w.mounted.length, .foreground, policy, sections, .spawned⟩
    have hfirst : (w.jobs ++ if (w.read policy.key).isSome then [] else [first]).filter
        (·.isQuietFor n) = s.jobs := by
      split
      · rw [List.append_nil, hjobs]
      · rw [filter_concat_other (by simp [Job.isQuietFor, first]), hjobs]
    refine hrests nofun ?_ hfirst hbegun hended
    exact (List.getElem?_append_left (List.getElem?_eq_some_iff.1 htimer).1).trans htimer
  | refreshes there live =>
    refine hrests nofun htimer ?_ hbegun hended
    exact (filter_concat_other (by simp [Job.isQuietFor])).trans hjobs
  | unmounts k =>
    by_cases hk : k = n
    · exact hview (.inr ⟨by rw [hk], rfl⟩) (hset hk _) hjobs hbegun hended
    · exact hrests (fun h => hk (Move.unmount.inj h)) (hsame hk _) hjobs hbegun hended
  | @sleeps k t t' till mode there aim early =>
    by_cases hk : k = n
    · obtain rfl : t = s.timer := Option.some.inj (there.symm.trans (hk ▸ htimer))
      exact hview (.inl ⟨nofun, .sleeps aim early⟩) (hset hk _) hjobs hbegun hended
    · exact hrests nofun (hsame hk _) hjobs hbegun hended
  | @setsOut k t t' till mode there aim due =>
    by_cases hk : k = n
    · obtain rfl : t = s.timer := Option.some.inj (there.symm.trans (hk ▸ htimer))
      exact hview (.inl ⟨nofun, .setsOut aim due⟩) (hset hk _) hjobs hbegun hended
    · exact hrests nofun (hsame hk _) hjobs hbegun hended
  | @fetches k t mode aborted there stage =>
    let job : Job := ⟨w.nextJob, k, mode, t.policy, t.sections, .spawned⟩
    by_cases hk : k = n
    · obtain rfl : t = s.timer := Option.some.inj (there.symm.trans (hk ▸ htimer))
      have hown : job.isQuietFor n = true := by simp [Job.isQuietFor, job, mode.property, hk]
      have hmore : (w.jobs ++ [job]).filter (·.isQuietFor n) = s.jobs ++ [job] := by
        rw [List.filter_append, hjobs, List.filter_cons_of_pos hown, List.filter_nil]
      exact hview (.inl ⟨nofun, .fetches stage job rfl rfl rfl⟩) (hset hk _) hmore hbegun hended
    · refine hrests nofun (hsame hk _) ?_ hbegun hended
      exact (filter_concat_other (isQuietFor_of_ne hk)).trans hjobs
  | @begins job waits fresh endsAt result course early =>
    cases hown : job.isQuietFor n with
    | true =>
      obtain ⟨honly, -⟩ := halone waits hown
      have hlimit : endsAt ≤ sleepEnd w.now job.policy.timeout := by
        have hends := beginFetch_limit w job
        rwa [course] at hends
      exact hview (.inl ⟨nofun, .begins honly fresh result early hlimit⟩) htimer
        (filter_setRunning_own (hjobs.trans honly) endsAt result)
        (by simp [Books.begin, books, hown, hbegun]) hended
    | false =>
      exact hrests nofun htimer ((filter_setRunning_other a waits hown endsAt result).trans hjobs)
        (by simp [Books.begin, books, hown, hbegun]) hended
  | @answers job waits fresh endsAt result course due =>
    cases hown : job.isQuietFor n with
    | true =>
      obtain ⟨honly, hbinding⟩ := halone waits hown
      refine hview (.inl ⟨nofun, .answers honly fresh (w.outcomeOf job result)⟩) ?_
        (filter_remove_own (hjobs.trans honly))
        (by simp [Books.finish, Books.begin, books, hown, hbegun])
        (by simp [Books.finish, Books.begin, books, hown, hended])
      rw [isOk_outcomeOf]
      exact hset hbinding _
    | false =>
      exact hrests nofun (hear_other a hs attended waits hown result.isOk)
        ((filter_remove_other a waits hown).trans hjobs)
        (by simp [Books.finish, Books.begin, books, hown, hbegun])
        (by simp [Books.finish, Books.begin, books, hown, hended])
  | @ends job waits endsAt result course due =>
    cases hown : job.isQuietFor n with
    | true =>
      obtain ⟨honly, hbinding⟩ := halone waits hown
      refine hview (.inl ⟨nofun, .ends honly course due (w.outcomeOf job result)⟩) ?_
        (filter_remove_own (hjobs.trans honly)) hbegun
        (by simp [Books.finish, books, hown, hended])
      rw [isOk_outcomeOf]
      exact hset hbinding _
    | false =>
      exact hrests nofun (hear_other a hs attended waits hown result.isOk)
        ((filter_remove_other a waits hown).trans hjobs) hbegun
        (by simp [Books.finish, books, hown, hended])

/-- A move does one step to the session of a binding, or aborts its timer. -/
theorem session_move {w : World} (a : Accounts w) {n : Nat} {s : Session}
    (hs : w.session? n = some s) (attended : s.Attended) (m : Move) :
    ∃ s', (w.move m).session? n = some s' ∧ Session.Change w.now n m s s' :=
  (effect_move w m).session a hs attended rfl

/-! ## Attendance -/

/-- The session of a binding that has just been mounted. -/
theorem session?_mount {w : World} (o : Owned w) (policy : Fetch.Policy) (sections : List Section) :
    (w.mount policy sections).session? w.mounted.length =
      some ⟨⟨policy, sections, policy.interval, .fresh (w.read policy.key).isSome⟩, [], [], []⟩ := by
  -- No fetch has ever been one for this binding.
  have hother {j : Job} (h : w.purposes[j.binding]? = some j.purpose) :
      j.isQuietFor w.mounted.length = false := by
    have hlt := (List.getElem?_eq_some_iff.1 h).1
    rw [length_purposes] at hlt
    exact isQuietFor_of_ne (Nat.ne_of_lt hlt)
  obtain ⟨mounted, nextJob, ready, heq⟩ := mount_eq w policy sections
  have htimers : (w.mount policy sections).timers[w.mounted.length]? =
      some ⟨policy, sections, policy.interval, .fresh (w.read policy.key).isSome⟩ := by
    rw [timers_mount, ← length_timers, List.getElem?_concat_length]
  refine session?_eq_some_iff.2 ⟨htimers, ?_, ?_, ?_⟩
  · have hjobs := congrArg World.jobs heq
    rw [List.filter_eq_nil_iff]
    intro j hj
    rw [hjobs] at hj
    rcases List.mem_append.1 hj with hj | hj
    · simp [hother (o.jobs j hj)]
    · split at hj
      · cases hj
      · rw [List.mem_singleton.1 hj]
        simp [Job.isQuietFor]
  · have hbegun := congrArg World.begun heq
    rw [List.filter_eq_nil_iff]
    intro f hf
    rw [hbegun] at hf
    simp [hother (o.begun f hf)]
  · have hended := congrArg World.ended heq
    rw [List.filter_eq_nil_iff]
    intro x hx
    rw [hended] at hx
    simp [hother (o.ended x hx)]

theorem length_mounted_move (w : World) (m : Move) :
    (w.move m).mounted.length = w.mounted.length + m.purpose?.toList.length := by
  rw [← length_purposes, purposes_move, List.length_append, length_purposes]

theorem session?_isSome_iff (w : World) (n : Nat) : (w.session? n).isSome ↔ n < w.mounted.length := by
  simp [session?]

/-- A session that was not there before is that of the binding that has just been mounted. -/
theorem mount_of_session? {w : World} {m : Move} {n : Nat} {s : Session} (before : w.session? n = none)
    (after : (w.move m).session? n = some s) :
    n = w.mounted.length ∧ ∃ policy sections, m = .mount policy sections := by
  have hnew : ¬ n < w.mounted.length := by
    rw [← session?_isSome_iff, before]
    exact Bool.false_ne_true
  have hthere : n < (w.move m).mounted.length := by
    rw [← session?_isSome_iff, after]
    rfl
  rw [length_mounted_move] at hthere
  cases m with
  | mount policy sections =>
    have hone : (Move.mount policy sections).purpose?.toList.length = 1 := rfl
    exact ⟨by omega, policy, sections, rfl⟩
  | refresh | poll | unmount | goOn | clock | calendar | line | serve | disturb =>
    exact absurd hthere hnew

/-- The timers of a world wait for their fetches. -/
structure Orderly (w : World) : Prop where
  accounts : Accounts w
  owned : Owned w
  attended : ∀ n s, w.session? n = some s → s.Attended

theorem orderly_start (calendar : Int) (space : String) (storage : Cache.Storage)
    (servers : Servers) : Orderly (start calendar space storage servers) where
  accounts := accounts_start calendar space storage servers
  owned := owned_start calendar space storage servers
  attended := by
    intro n s hs
    cases hs

theorem Orderly.move {w : World} (h : Orderly w) (m : Move) : Orderly (w.move m) := by
  refine ⟨h.accounts.move m, h.owned.move m, fun n s hs => ?_⟩
  cases hbefore : w.session? n with
  | some s₀ =>
    obtain ⟨s', hs', ⟨-, hstep⟩ | ⟨-, rfl⟩⟩ :=
      session_move h.accounts hbefore (h.attended n s₀ hbefore) m
    · obtain rfl := Option.some.inj (hs.symm.trans hs')
      exact hstep.attended (h.attended n s₀ hbefore)
    · obtain rfl := Option.some.inj (hs.symm.trans hs')
      exact (h.attended n s₀ hbefore).abort
  | none =>
    obtain ⟨rfl, policy, sections, rfl⟩ := mount_of_session? hbefore hs
    obtain rfl := Option.some.inj (hs.symm.trans (session?_mount h.owned policy sections))
    rfl

/-- After every run, a timer that waits has one fetch under way, and one that does not has none. -/
theorem orderly_run {w : World} (h : Orderly w) (moves : List Move) : Orderly (w.run moves) :=
  run_invariant (fun _ m hw => hw.move m) h moves

end World

end Lookout
