import Lookout.Proofs.World.Alone

/-!
# A binding in company and alone: tasks and the clock

A task that goes on is one of the binding, and goes on in the world in which the binding is alone too; or
it is one of another binding, which asks other paths and writes to another place, and is none of that
world. When the clock comes to a time, what goes on then is put in line in both worlds; a time at which
only others go on is no stop when the binding is alone.

* **`Mirrors.turn`** — a task that goes on.
* **`Mirrors.wake`** — the clock comes to a time.
-/

namespace Lookout

namespace World

variable {n : Nat} {key : String} {paths : List String} {ids : Nat → Option Nat} {w u : World}

/-! ## Fetches in one world or in both -/

/-- A fetch that begins makes its requests for its binding. -/
theorem requestsOf_begin (w : World) (f : BegunFetch) (asked : List AskedRequest) (n : Nat) :
    { w with begun := f :: w.begun, asked := asked }.requestsOf n =
      (if f.job.binding = n then f.requests else []) ++ w.requestsOf n := by
  by_cases hown : f.job.binding = n
  · simp [requestsOf, hown]
  · simp [requestsOf, hown]

/-- A fetch that ends leaves the fetches under way and is written if it succeeded; then its binding and the
timer of its binding are told. -/
theorem finish_eq_wakeTimer (w : World) (job : Job) (result : Except Fetch.Failure Json) :
    w.finish job result =
      ({ w with
          jobs := w.jobs.filter (·.id ≠ job.id)
          storage := w.storageAfter job result }.deliver job (w.outcomeOf job result)).wakeTimer job
        result.isOk := by
  cases result <;> rfl

namespace Mirrors

section own

variable (h : Mirrors n key paths ids w u) {job : Job} {i : Nat}
include h

/-- Fetches under way change, and keep their numbers and bindings. -/
theorem change_jobs {js js' : List Job}
    (kept : ∀ j ∈ js, ∃ k ∈ w.jobs, j.id = k.id ∧ j.binding = k.binding)
    (alike : js' = js.filterMap (Job.alone? ids)) :
    Mirrors n key paths ids { w with jobs := js } { u with jobs := js' } := by
  refine { h with jobs := alike, owned := ?_, numbered := ?_ }
  · intro j hj
    obtain ⟨k, hk, hid, hbinding⟩ := kept j hj
    rw [hid, hbinding]
    exact h.owned k hk
  · intro j hj
    obtain ⟨k, hk, hid, -⟩ := kept j hj
    rw [hid]
    exact h.numbered k hk

theorem askedCount_eq {path : String} (own : path ∈ paths) : u.askedCount path = w.askedCount path := by
  rw [askedCount, askedCount, h.asked, List.countP_filter]
  refine List.countP_congr fun r _ => ?_
  simp only [Bool.and_eq_true, decide_eq_true_eq, and_iff_left_iff_imp]
  rintro rfl
  exact own

/-- A fetch for the binding begins alone as it does in company, and has the same course. -/
theorem begins (own : job.binding = n) (ofKey : job.policy.key = key)
    (ofPaths : ∀ s ∈ job.sections, s.path ∈ paths) :
    Mirrors n key paths ids (w.beginFetch job).1 (u.beginFetch (job.renamed i)).1 ∧
      (u.beginFetch (job.renamed i)).2 = (w.beginFetch job).2 := by
  have hrequests : BegunFetch.requests ⟨u.now, job.renamed i⟩ = BegunFetch.requests ⟨w.now, job⟩ := by
    rw [h.now]
    rfl
  constructor
  · rw [beginFetch_fst, beginFetch_fst]
    refine { h with asked := ?_, requests := ?_ }
    · show _ ++ u.asked = (_ ++ w.asked).filter (·.path ∈ paths)
      have hown : (BegunFetch.requests ⟨w.now, job⟩).filter (·.path ∈ paths) =
          BegunFetch.requests ⟨w.now, job⟩ := by
        rw [List.filter_eq_self]
        intro r hr
        obtain ⟨s, hs, rfl⟩ := List.mem_map.1 (List.mem_reverse.1 hr)
        exact decide_eq_true (ofPaths s hs)
      rw [List.filter_append, hown, ← h.asked, hrequests]
    · rw [requestsOf_begin, requestsOf_begin, h.requests, if_pos own]
      exact congrArg (· ++ w.requestsOf n) hrequests
  · have hheld : u.held job.policy.key = w.held job.policy.key := by
      rw [held, ofKey, h.read_eq, held]
    have hanswers : (u.ask job.sections).2 = (w.ask job.sections).2 :=
      ask_answers (fun s hs => h.askedCount_eq (ofPaths s hs)) fun s _ count _ => by rw [h.servers]
    rw [beginFetch_snd, beginFetch_snd, ← hheld, ← hanswers, ← h.now]
    rfl

/-- The end of a fetch for the binding becomes known. -/
theorem setRunning (hid : ids job.id = some i) (endsAt : Nat) (result : Except Fetch.Failure Json) :
    Mirrors n key paths ids (w.setRunning job endsAt result)
      (u.setRunning (job.renamed i) endsAt result) := by
  refine h.change_jobs (fun j hj => ?_) ?_
  · obtain ⟨k, hk, rfl⟩ := List.mem_map.1 hj
    exact ⟨k, hk, by split <;> exact ⟨rfl, rfl⟩⟩
  · rw [h.jobs, List.map_filterMap, List.filterMap_map]
    refine List.filterMap_congr fun j _ => ?_
    cases hj : ids j.id with
    | none =>
      have hother : j.id ≠ job.id := fun heq => by simp [heq, hid] at hj
      simp [Job.alone?, hj, hother]
    | some k =>
      by_cases hsame : j.id = job.id
      · simp [Job.alone?, Job.renamed, hsame, hid]
      · have hother : k ≠ i := mt (h.distinct.eq_iff hj hid).1 hsame
        simp [Job.alone?, Job.renamed, hj, hsame, hother]

/-- A fetch for the binding leaves those under way. -/
theorem forget (hid : ids job.id = some i) :
    Mirrors n key paths ids { w with jobs := w.jobs.filter (·.id ≠ job.id) }
      { u with jobs := u.jobs.filter (·.id ≠ i) } := by
  refine h.change_jobs (fun j hj => ⟨j, (List.mem_filter.1 hj).1, rfl, rfl⟩) ?_
  rw [h.jobs, List.filter_filterMap, List.filterMap_filter]
  refine List.filterMap_congr fun j _ => ?_
  cases hj : ids j.id with
  | none => simp [Job.alone?, hj]
  | some k =>
    by_cases hsame : j.id = job.id
    · simp [Job.alone?, Job.renamed, hsame, hid]
    · have hother : k ≠ i := mt (h.distinct.eq_iff hj hid).1 hsame
      simp [Job.alone?, Job.renamed, hj, hsame, hother]

/-- What a fetch for the binding tells it. -/
theorem outcomeOf_eq (ofKey : job.policy.key = key) (result : Except Fetch.Failure Json) :
    u.outcomeOf (job.renamed i) result = w.outcomeOf job result := by
  cases result with
  | error e => rfl
  | ok payload =>
    subst ofKey
    show Fetch.Outcome.mk job.mode (.ok (Cache.stamp u.space u.storage job.policy.key payload u.wall)) = _
    rw [h.space, h.wall_eq, Cache.stamp_congr h.getFails h.slot]
    rfl

/-- A fetch for the binding writes what it writes alone. -/
theorem writes (ofKey : job.policy.key = key) (result : Except Fetch.Failure Json) :
    Mirrors n key paths ids { w with storage := w.storageAfter job result }
      { u with storage := u.storageAfter (job.renamed i) result } := by
  cases result with
  | error e => exact { h with }
  | ok payload =>
    subst ofKey
    have hafter : u.storageAfter (job.renamed i) (.ok payload) =
        (Cache.write w.space u.storage job.policy.key payload w.wall).1 := by
      rw [← h.space, ← h.wall_eq]
      rfl
    rw [hafter]
    exact { h with
      getFails := (Cache.Storage.getFails_set _ _ _).trans
        (h.getFails.trans (Cache.Storage.getFails_set _ _ _).symm)
      setFails := (Cache.Storage.setFails_set _ _ _).trans
        (h.setFails.trans (Cache.Storage.setFails_set _ _ _).symm)
      slot := Cache.lookup_write_congr h.getFails h.setFails h.slot payload w.wall }

/-- The binding is told of the end of a fetch. -/
theorem delivers (own : job.binding = n) (o : Fetch.Outcome) :
    Mirrors n key paths ids (w.deliver job o) (u.deliver (job.renamed i) o) := by
  have hended : Mirrors n key paths ids { w with ended := ⟨w.now, job, o⟩ :: w.ended }
      { u with ended := ⟨u.now, job.renamed i, o⟩ :: u.ended } := { h with }
  subst own
  exact hended.modify_binding (·.receive o)

/-- The timer of the binding hears of the end of a fetch. -/
theorem wakes (own : job.binding = n) (hid : ids job.id = some i) (succeeded : Bool) :
    Mirrors n key paths ids (w.wakeTimer job succeeded) (u.wakeTimer (job.renamed i) succeeded) := by
  subst own
  have hmounted : u.mounted[(job.renamed i).binding]? = _ := h.getElem?_mounted
  unfold wakeTimer
  rw [hmounted]
  cases hm : w.mounted[job.binding]? with
  | none => exact h
  | some m =>
    have hawaited := h.awaited m hm
    have hawaits : Timer.awaits i (m.timer.alone ids) = Timer.awaits job.id m.timer :=
      Timer.awaits_alone h.distinct hid hawaited
    show Mirrors _ _ _ _ (if Timer.awaits job.id m.timer then _ else w)
      (if Timer.awaits i (m.timer.alone ids) then _ else u)
    rw [hawaits]
    split
    · refine (h.modify (fun k hk => ?_) fun k hk id hwaits => ?_).join_timer
      · exact congrArg (Mounted.mk k.binding)
          (Timer.hear_alone h.distinct hid (h.awaited k hk) succeeded).symm
      · exact h.awaited k hk id (Timer.awaits_hear hwaits)
    · exact h

/-- A fetch for the binding ends. -/
theorem finish (own : job.binding = n) (ofKey : job.policy.key = key) (hid : ids job.id = some i)
    (result : Except Fetch.Failure Json) :
    Mirrors n key paths ids (w.finish job result) (u.finish (job.renamed i) result) := by
  have hwritten := (h.forget hid).writes (i := i) ofKey result
  rw [finish_eq_wakeTimer, finish_eq_wakeTimer, h.outcomeOf_eq ofKey]
  exact (hwritten.delivers own _).wakes own hid _

end own

section other

variable (h : Mirrors n key paths ids w u) {job : Job}
include h

/-- A fetch for another binding begins. -/
theorem begins_other (other : job.binding ≠ n) (ofPaths : ∀ s ∈ job.sections, s.path ∉ paths) :
    Mirrors n key paths ids (w.beginFetch job).1 u := by
  rw [beginFetch_fst]
  refine { h with asked := ?_, requests := ?_ }
  · show u.asked = (_ ++ w.asked).filter (·.path ∈ paths)
    have hnone : (BegunFetch.requests ⟨w.now, job⟩).filter (·.path ∈ paths) = [] := by
      rw [List.filter_eq_nil_iff]
      intro r hr
      obtain ⟨s, hs, rfl⟩ := List.mem_map.1 (List.mem_reverse.1 hr)
      exact fun hmem => ofPaths s hs (of_decide_eq_true hmem)
    rw [List.filter_append, hnone, List.nil_append, h.asked]
  · rw [requestsOf_begin, if_neg other, List.nil_append, h.requests]

theorem setRunning_other (hid : ids job.id = none) (endsAt : Nat)
    (result : Except Fetch.Failure Json) : Mirrors n key paths ids (w.setRunning job endsAt result) u := by
  refine h.change_jobs (fun j hj => ?_) ?_
  · obtain ⟨k, hk, rfl⟩ := List.mem_map.1 hj
    exact ⟨k, hk, by split <;> exact ⟨rfl, rfl⟩⟩
  · rw [h.jobs, List.filterMap_map]
    refine List.filterMap_congr fun j _ => ?_
    by_cases hsame : j.id = job.id
    · simp [Job.alone?, hsame, hid]
    · simp [hsame]

/-- A fetch for another binding ends, and what it writes is in another place. -/
theorem finish_other (other : job.binding ≠ n) (hid : ids job.id = none)
    (elsewhere : Cache.slotName w.space job.policy.key ≠ Cache.slotName w.space key)
    (result : Except Fetch.Failure Json) : Mirrors n key paths ids (w.finish job result) u := by
  have hforgotten : Mirrors n key paths ids { w with jobs := w.jobs.filter (·.id ≠ job.id) } u := by
    refine h.change_jobs (fun j hj => ⟨j, (List.mem_filter.1 hj).1, rfl, rfl⟩) ?_
    rw [h.jobs, List.filterMap_filter]
    refine List.filterMap_congr fun j _ => ?_
    by_cases hsame : j.id = job.id
    · simp [Job.alone?, hsame, hid]
    · simp [hsame]
  have hwritten : Mirrors n key paths ids { w with
      jobs := w.jobs.filter (·.id ≠ job.id)
      storage := w.storageAfter job result } u := by
    cases result with
    | error e => exact hforgotten
    | ok payload =>
      exact { hforgotten with
        getFails := h.getFails.trans (Cache.Storage.getFails_set _ _ _).symm
        setFails := h.setFails.trans (Cache.Storage.setFails_set _ _ _).symm
        slot := h.slot.trans (Cache.slots_attempt_of_ne w.storage elsewhere.symm
          ⟨payload, w.wall, w.storage.getFails, w.storage.setFails⟩).symm }
  have htold : Mirrors n key paths ids ({ w with
      jobs := w.jobs.filter (·.id ≠ job.id)
      storage := w.storageAfter job result }.deliver job (w.outcomeOf job result)) u := by
    have hended : Mirrors n key paths ids { w with
      jobs := w.jobs.filter (·.id ≠ job.id)
      storage := w.storageAfter job result
      ended := ⟨w.now, job, w.outcomeOf job result⟩ :: w.ended } u := { hwritten with }
    exact hended.modify_other other _
  rw [finish_eq_wakeTimer]
  unfold wakeTimer
  split
  · split
    · exact (htold.modify_other other _).join_timer_other other
    · exact htold
  · exact htold

end other

end Mirrors

/-! ## Tasks that go on -/

theorem runJob_spawned {job : Job} (fresh : job.stage = .spawned) : w.runJob job =
    if (w.beginFetch job).2.1 ≤ w.now then (w.beginFetch job).1.finish job (w.beginFetch job).2.2
    else (w.beginFetch job).1.setRunning job (w.beginFetch job).2.1 (w.beginFetch job).2.2 := by
  simp only [runJob, fresh, beginFetch_now]

theorem runJob_running {job : Job} {endsAt : Nat} {result : Except Fetch.Failure Json}
    (course : job.stage = .running endsAt result) :
    w.runJob job = if endsAt ≤ w.now then w.finish job result else w := by
  simp only [runJob, course]

/-- Among what bindings are for, the one of a number has a key and asks some paths, and all others have
another place in the cache and ask other paths. -/
structure Apart (n : Nat) (key : String) (paths : List String) (space : String)
    (purposes : List Purpose) : Prop where
  own {p : Purpose} : purposes[n]? = some p → p.policy.key = key ∧ ∀ s ∈ p.sections, s.path ∈ paths
  others {k : Nat} {p : Purpose} : purposes[k]? = some p → k ≠ n →
    Cache.slotName space p.policy.key ≠ Cache.slotName space key ∧ ∀ s ∈ p.sections, s.path ∉ paths

namespace Mirrors

section turns

variable (h : Mirrors n key paths ids w u)
include h

/-- A fetch for the binding goes on. -/
theorem runJob {job : Job} {i : Nat} (own : job.binding = n) (hid : ids job.id = some i)
    (ofKey : job.policy.key = key) (ofPaths : ∀ s ∈ job.sections, s.path ∈ paths) :
    Mirrors n key paths ids (w.runJob job) (u.runJob (job.renamed i)) := by
  cases hstage : job.stage with
  | spawned =>
    obtain ⟨hbegun, hcourse⟩ := h.begins (i := i) own ofKey ofPaths
    have hrenamed : (job.renamed i).stage = .spawned := hstage
    rw [runJob_spawned hstage, runJob_spawned hrenamed, hcourse, h.now]
    split
    · exact hbegun.finish own ofKey hid _
    · exact hbegun.setRunning hid _ _
  | running endsAt result =>
    have hrenamed : (job.renamed i).stage = .running endsAt result := hstage
    rw [runJob_running hstage, runJob_running hrenamed, h.now]
    split
    · exact h.finish own ofKey hid _
    · exact h

/-- A fetch for another binding goes on. -/
theorem runJob_other {job : Job} (other : job.binding ≠ n) (hid : ids job.id = none)
    (elsewhere : Cache.slotName w.space job.policy.key ≠ Cache.slotName w.space key)
    (ofPaths : ∀ s ∈ job.sections, s.path ∉ paths) : Mirrors n key paths ids (w.runJob job) u := by
  cases hstage : job.stage with
  | spawned =>
    have hbegun := h.begins_other other ofPaths
    have hspace : (w.beginFetch job).1.space = w.space := by rw [beginFetch_fst]
    rw [runJob_spawned hstage]
    split
    · exact hbegun.finish_other other hid (hspace ▸ elsewhere) _
    · exact hbegun.setRunning_other hid _ _
  | running endsAt result =>
    rw [runJob_running hstage]
    split
    · exact h.finish_other other hid elsewhere _
    · exact h

/-- The timer of the binding sets out to spawn a fetch. -/
theorem setOut (t : Timer) (mode : Fetch.QuietMode) :
    Mirrors n key paths ids (w.setOut n t mode) (u.setOut 0 t mode) := by
  have hset := h.modify
    (f := fun m => { m with timer := { t with stage := .dispatching mode false } })
    (g := fun m => { m with timer := { t with stage := .dispatching mode false } })
    (fun _ _ => rfl) (fun _ _ _ hwaits => by cases hwaits)
  exact hset.hurry

/-- The timer of the binding spawns a fetch. -/
theorem dispatch (t : Timer) (mode : Fetch.QuietMode) (aborted : Bool) :
    ∃ ids', Mirrors n key paths ids' (w.dispatch n t mode aborted) (u.dispatch 0 t mode aborted) := by
  let job : Job := ⟨w.nextJob, n, mode, t.policy, t.sections, .spawned⟩
  have hgiven : Function.update ids w.nextJob (some u.nextJob) w.nextJob = some u.nextJob :=
    Function.update_self _ _ _
  have hset := h.number.modify
    (f := fun m => { m with timer := { t with stage := dispatched w.nextJob mode aborted } })
    (g := fun m => { m with timer := { t with stage := dispatched u.nextJob mode aborted } })
    (fun m _ => by
      cases aborted with
      | true => rfl
      | false => simp only [Mounted.alone, Timer.alone, dispatched, hgiven, Bool.false_eq_true, if_false,
          Option.getD_some])
    (fun m _ id hwaits => by
      cases aborted with
      | true => cases hwaits
      | false =>
        obtain rfl : w.nextJob = id := of_decide_eq_true hwaits
        rw [hgiven]
        rfl)
  exact ⟨_, hset.join (rfl : job.binding = n) hgiven⟩

/-- The timer of the binding goes on. -/
theorem runTimer {m : Mounted} (hm : w.mounted[n]? = some m) :
    ∃ ids', Mirrors n key paths ids' (w.runTimer n m.timer) (u.runTimer 0 (m.alone ids).timer) := by
  have hm' : u.mounted[0]? = some (m.alone ids) := by rw [h.getElem?_mounted, hm, Option.map_some]
  have haim : Timer.aim? u.now (m.alone ids).timer = Timer.aim? w.now m.timer := by
    rw [h.now]
    exact Timer.aim?_alone _ _
  rw [runTimer_eq hm, runTimer_eq hm', haim, h.now]
  obtain ⟨binding, policy, sections, wait, stage⟩ := m
  cases stage with
  | dispatching mode aborted => exact h.dispatch _ mode aborted
  | fresh | sleeping | awaiting | answered | stopped =>
    dsimp only [Mounted.alone, Timer.alone]
    split
    · exact ⟨ids, h⟩
    · next t till mode _ =>
      split
      · exact ⟨ids, h.setOut t mode⟩
      · exact ⟨ids, h.modify (fun _ _ => rfl) fun _ _ _ hwaits => by cases hwaits⟩

/-- The timer of another binding goes on. -/
theorem runTimer_other {k : Nat} (other : k ≠ n) {m : Mounted} (hm : w.mounted[k]? = some m) :
    Mirrors n key paths ids (w.runTimer k m.timer) u := by
  rw [runTimer_eq hm]
  split
  · exact (h.modify_other other _).spawn_other other _ _ _
  · split
    · exact h
    · next t till mode _ =>
      split
      · exact (h.modify_other other _).hurry_other other
      · exact h.modify_other other _

/-- A fetch for the binding is found under its number. -/
theorem find?_jobs {id i : Nat} (hid : ids id = some i) :
    u.jobs.find? (·.id = i) = (w.jobs.find? (·.id = id)).map (·.renamed i) := by
  rw [h.jobs, List.find?_filterMap]
  have hsame : (fun j : Job => (j.alone? ids).any (·.id = i)) = fun j => decide (j.id = id) := by
    funext j
    cases hj : ids j.id with
    | none =>
      have hother : j.id ≠ id := fun heq => by simp [heq, hid] at hj
      simp [Job.alone?, hj, hother]
    | some k =>
      have hiff := h.distinct.eq_iff hj hid
      simp [Job.alone?, Job.renamed, hj, hiff]
  rw [hsame]
  cases hfound : w.jobs.find? (·.id = id) with
  | none => rfl
  | some j =>
    have hj : j.id = id := by simpa using List.find?_some hfound
    simp [Job.alone?, hj, hid]

/-- A task goes on: it is one of the binding, which stands at the head of the line when the binding is
alone too, or nothing happens to the binding. -/
theorem turn (o : Owned w) (a : Apart n key paths w.space w.purposes) {task : Task} {rest : List Task}
    (line : w.ready = task :: rest) :
    ∃ ids', Mirrors n key paths ids' ({ w with ready := rest }.runTask task) u ∨
      ∃ task' rest', u.ready = task' :: rest' ∧
        Mirrors n key paths ids' ({ w with ready := rest }.runTask task)
          ({ u with ready := rest' }.runTask task') := by
  cases hown : task.alone? n ids with
  | none =>
    have hleft := h.leave_other line hown
    cases task with
    | job id =>
      have hid : ids id = none := by simpa [Task.alone?] using hown
      refine ⟨ids, .inl ?_⟩
      simp only [runTask]
      split
      · next job hjob =>
        obtain rfl : job.id = id := by simpa using List.find?_some hjob
        have hwaits : job ∈ w.jobs := List.mem_of_find?_eq_some hjob
        have hother : job.binding ≠ n := fun heq => by
          have hsome := (h.owned job hwaits).2 heq
          rw [hid] at hsome
          cases hsome
        obtain ⟨helsewhere, hpaths⟩ := a.others (o.jobs job hwaits) hother
        exact hleft.runJob_other hother hid helsewhere hpaths
      · exact hleft
    | timer k =>
      have hother : k ≠ n := fun heq => by simp [Task.alone?, heq] at hown
      refine ⟨ids, .inl ?_⟩
      simp only [runTask]
      split
      · next m hm => exact hleft.runTimer_other hother hm
      · exact hleft
  | some task' =>
    obtain ⟨rest', hline, hleft⟩ := h.leave line hown
    cases task with
    | job id =>
      obtain ⟨i, hid, rfl⟩ := Option.map_eq_some_iff.1 hown
      refine ⟨ids, .inr ⟨_, rest', hline, ?_⟩⟩
      have hfind : u.jobs.find? (·.id = i) = _ := h.find?_jobs hid
      simp only [runTask, hfind]
      cases hjob : w.jobs.find? (·.id = id) with
      | none => exact hleft
      | some job =>
        obtain rfl : job.id = id := by simpa using List.find?_some hjob
        have hwaits : job ∈ w.jobs := List.mem_of_find?_eq_some hjob
        have hbinding : job.binding = n := (h.owned job hwaits).1 (by rw [hid]; rfl)
        obtain ⟨hkey, hpaths⟩ := a.own (hbinding ▸ o.jobs job hwaits)
        exact hleft.runJob hbinding hid hkey hpaths
    | timer k =>
      obtain ⟨rfl, rfl⟩ : k = n ∧ Task.timer 0 = task' := by
        simpa [Task.alone?] using hown
      have hmounted : u.mounted[0]? = _ := h.getElem?_mounted
      cases hm : w.mounted[k]? with
      | none =>
        refine ⟨ids, .inr ⟨_, rest', hline, ?_⟩⟩
        simp only [runTask, hm, hmounted, Option.map_none]
        exact hleft
      | some m =>
        obtain ⟨ids', hturn⟩ := hleft.runTimer hm
        refine ⟨ids', .inr ⟨_, rest', hline, ?_⟩⟩
        simp only [runTask, hm, hmounted, Option.map_some]
        exact hturn

end turns

end Mirrors

/-! ## The clock -/

/-- The task of a fetch that ends at a time or before. -/
def Job.dueTask? (time : Nat) (j : Job) : Option Task :=
  match j.stage with
  | .running endsAt _ => if endsAt ≤ time then some (.job j.id) else none
  | .spawned => none

/-- The task of a timer that sleeps until a time or less. -/
def Mounted.dueTask? (time n : Nat) (m : Mounted) : Option Task :=
  match m.timer.stage with
  | .sleeping till _ => if till ≤ time then some (.timer n) else none
  | _ => none

theorem ready_wake (w : World) (time : Nat) : (w.wake time).ready = w.ready ++
    w.jobs.filterMap (Job.dueTask? time) ++
      (w.mounted.mapIdx (Mounted.dueTask? time)).filterMap id := rfl

/-- What one element of a list by its place comes to, where all others come to nothing. -/
theorem filterMap_mapIdx {α β γ : Type} {f : Nat → α → Option β} {g : Option β → Option γ} {n : Nat}
    (others : ∀ k a, k ≠ n → g (f k a) = none) (l : List α) :
    (l.mapIdx f).filterMap g = (l[n]?.bind fun a => g (f n a)).toList := by
  induction l generalizing f n with
  | nil => rfl
  | cons a l ih =>
    rw [List.mapIdx_cons]
    cases n with
    | zero =>
      have hrest : (l.mapIdx fun k => f (k + 1)).filterMap g = [] := by
        rw [ih (n := l.length) fun k b _ => others (k + 1) b (Nat.succ_ne_zero k),
          List.getElem?_eq_none (Nat.le_refl _)]
        rfl
      cases hhead : g (f 0 a) with
      | none => simp [hhead, hrest]
      | some c => simp [hhead, hrest]
    | succ n =>
      rw [List.filterMap_cons_none (others 0 a (Nat.succ_ne_zero n).symm)]
      exact ih fun k b hk => others (k + 1) b fun heq => hk (Nat.succ.inj heq)

namespace Mirrors

variable (h : Mirrors n key paths ids w u)
include h

/-- The clock comes to a time, and what goes on then joins the line in both worlds. -/
theorem wake (time : Nat) : Mirrors n key paths ids (w.wake time) (u.wake time) := by
  have hjobs : (w.jobs.filterMap (Job.dueTask? time)).filterMap (Task.alone? n ids) =
      u.jobs.filterMap (Job.dueTask? time) := by
    rw [h.jobs, List.filterMap_filterMap, List.filterMap_filterMap]
    refine List.filterMap_congr fun j _ => ?_
    cases hstage : j.stage with
    | spawned => cases hid : ids j.id <;> simp [Job.dueTask?, Job.alone?, Job.renamed, hstage, hid]
    | running endsAt result =>
      by_cases hdue : endsAt ≤ time
      · cases hid : ids j.id <;>
          simp [Job.dueTask?, Job.alone?, Job.renamed, Task.alone?, hstage, hid, hdue]
      · cases hid : ids j.id <;> simp [Job.dueTask?, Job.alone?, Job.renamed, hstage, hid, hdue]
  have htimers : ((w.mounted.mapIdx (Mounted.dueTask? time)).filterMap id).filterMap
      (Task.alone? n ids) = (u.mounted.mapIdx (Mounted.dueTask? time)).filterMap id := by
    rw [List.filterMap_filterMap, filterMap_mapIdx (n := n), h.mounted]
    · cases w.mounted[n]? with
      | none => rfl
      | some m =>
        obtain ⟨binding, policy, sections, wait, stage⟩ := m
        cases stage with
        | fresh | dispatching | awaiting | answered | stopped => rfl
        | sleeping till mode =>
          by_cases hdue : till ≤ time <;>
            simp [Mounted.dueTask?, Mounted.alone, Timer.alone, Task.alone?, hdue]
    · intro k m hk
      unfold Mounted.dueTask?
      split
      · split
        · simp [Task.alone?, hk]
        · rfl
      · rfl
  refine { h with now := rfl, ready := ?_, queued := ?_ }
  · rw [ready_wake, ready_wake, List.filterMap_append, List.filterMap_append, hjobs, htimers, h.ready]
  · intro id hid
    rw [ready_wake] at hid
    rcases List.mem_append.1 hid with hid | hid
    · rcases List.mem_append.1 hid with hid | hid
      · exact h.queued id hid
      · obtain ⟨j, hj, hdue⟩ := List.mem_filterMap.1 hid
        obtain rfl : j.id = id := by
          unfold Job.dueTask? at hdue
          split at hdue
          · split at hdue
            · exact Task.job.inj (Option.some.inj hdue)
            · cases hdue
          · cases hdue
        exact h.numbered j hj
    · obtain ⟨o, ho, hdue⟩ := List.mem_filterMap.1 hid
      obtain ⟨k, hk, rfl⟩ := List.mem_mapIdx.1 ho
      have hnone : Mounted.dueTask? time k w.mounted[k] ≠ some (.job id) := by
        unfold Mounted.dueTask?
        split
        · split <;> simp
        · simp
      exact absurd hdue hnone

/-- What goes on by itself in the world in which the binding is alone goes on in company. -/
theorem mem_dueTimes {due : Nat} (hdue : due ∈ u.dueTimes) : due ∈ w.dueTimes := by
  rcases List.mem_append.1 hdue with hjob | htimer
  · obtain ⟨j, hj, hends⟩ := List.mem_filterMap.1 hjob
    rw [h.jobs] at hj
    obtain ⟨k, hk, halone⟩ := List.mem_filterMap.1 hj
    obtain ⟨i, -, rfl⟩ := Option.map_eq_some_iff.1 halone
    exact List.mem_append_left _ (List.mem_filterMap.2 ⟨k, hk, hends⟩)
  · obtain ⟨m, hm, htill⟩ := List.mem_filterMap.1 htimer
    rw [h.mounted, Option.mem_toList] at hm
    obtain ⟨k, hk, rfl⟩ := Option.map_eq_some_iff.1 hm
    refine List.mem_append_right _ (List.mem_filterMap.2 ⟨k, List.mem_of_getElem? hk, ?_⟩)
    obtain ⟨binding, policy, sections, wait, stage⟩ := k
    cases stage <;> exact htill

end Mirrors

/-- Nothing joins the line when the clock comes to a time at which nothing goes on. -/
theorem wake_of_not_due {time : Nat} (later : ∀ due ∈ w.dueTimes, time < due) :
    w.wake time = { w with now := time } := by
  have hjobs : w.jobs.filterMap (Job.dueTask? time) = [] := by
    rw [List.filterMap_eq_nil_iff]
    intro j hj
    unfold Job.dueTask?
    split
    · next endsAt result hstage =>
      refine if_neg (Nat.not_le_of_lt (later endsAt (List.mem_append_left _ ?_)))
      exact List.mem_filterMap.2 ⟨j, hj, by rw [hstage]⟩
    · rfl
  have htimers : (w.mounted.mapIdx (Mounted.dueTask? time)).filterMap id = [] := by
    rw [List.filterMap_eq_nil_iff]
    intro o ho
    obtain ⟨k, hk, rfl⟩ := List.mem_mapIdx.1 ho
    unfold Mounted.dueTask?
    split
    · next till mode hstage =>
      refine if_neg (Nat.not_le_of_lt (later till (List.mem_append_right _ ?_)))
      exact List.mem_filterMap.2 ⟨_, List.getElem_mem hk, by rw [hstage]⟩
    · rfl
  have hready : (w.wake time).ready = w.ready := by
    rw [ready_wake, hjobs, htimers, List.append_nil, List.append_nil]
  calc w.wake time = { w with now := time, ready := (w.wake time).ready } := rfl
    _ = { w with now := time } := by rw [hready]

end World

end Lookout
