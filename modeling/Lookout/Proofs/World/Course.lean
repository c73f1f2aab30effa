import Lookout.Proofs.World.Jobs
import Mathlib.Data.List.Induction

/-!
# The course of a fetch

A fetch begins in one world of a run, where it reads the cache and asks its sections, and ends in
another, where its outcome is told and a success is written. What happens between the two does not
change its result.

* **`merge_of_resultOf`** — a fetch that will succeed has merged its answers with what it read when it
  began.
* **`course_of_ended`** — every fetch that has ended in a run has a course within the run.
-/

namespace Lookout

namespace World

/-! ## Beginnings -/

/-- The snapshot that the cache holds for a key. -/
def held (w : World) (key : String) : Option Json := (w.read key).map (·.payload)

/-- The answers that a fetch gets if it begins in a world. -/
def answersTo (w : World) (job : Job) : List (Section × Except Fetch.Failure Json) :=
  (w.ask job.sections).2.map fun a => (a.1, a.2.result)

/-- The result that a fetch has if it begins in a world. -/
def resultOf (w : World) (job : Job) : Except Fetch.Failure Json :=
  (ending w.now job.policy (w.held job.policy.key) (w.ask job.sections).2).2

/-- One more request has been made. -/
theorem askedCount_cons (w : World) (r : AskedRequest) (path : String) :
    { w with asked := r :: w.asked }.askedCount path =
      w.askedCount path + if r.path = path then 1 else 0 := by
  simp only [askedCount, List.countP_cons, decide_eq_true_eq]

/-- The answers depend on how many requests the paths have had, and on what the servers answer to
requests that are still to come. -/
theorem ask_answers {w v : World} {sections : List Section}
    (counts : ∀ s ∈ sections, v.askedCount s.path = w.askedCount s.path)
    (later : ∀ s ∈ sections, ∀ count, w.askedCount s.path ≤ count →
      v.servers s.path count = w.servers s.path count) : (v.ask sections).2 = (w.ask sections).2 := by
  induction sections generalizing w v with
  | nil => rfl
  | cons s rest ih =>
    obtain ⟨hcount, hcounts⟩ := List.forall_mem_cons.1 counts
    obtain ⟨hanswer, hlater⟩ := List.forall_mem_cons.1 later
    have hrest := ih (w := { w with asked := askedOf w.now s :: w.asked })
      (v := { v with asked := askedOf v.now s :: v.asked })
      (fun t ht => by
        rw [askedCount_cons, askedCount_cons, hcounts t ht]
        rfl)
      fun t ht count le => hlater t ht count <| Nat.le_trans (by
        rw [askedCount_cons]
        exact Nat.le_add_right _ _) le
    simp only [ask]
    rw [hrest, hcount, hanswer _ (Nat.le_refl _)]

theorem beginFetch_snd (w : World) (job : Job) : (w.beginFetch job).2 =
    ending w.now job.policy (w.held job.policy.key) (w.ask job.sections).2 := by
  have hanswers : ({ w with begun := ⟨w.now, job⟩ :: w.begun }.ask job.sections).2 =
      (w.ask job.sections).2 := ask_answers (fun _ _ => rfl) fun _ _ _ _ => rfl
  simp only [beginFetch, held, ask_now, hanswers]

theorem beginFetch_result (w : World) (job : Job) : (w.beginFetch job).2.2 = w.resultOf job :=
  congrArg Prod.snd (beginFetch_snd w job)

theorem map_fst_answersTo (w : World) (job : Job) : (w.answersTo job).map (·.1) = job.sections := by
  have hask : ∀ (sections : List Section) (v : World),
      (v.ask sections).2.map (·.1) = sections := by
    intro sections
    induction sections with
    | nil => exact fun v => rfl
    | cons s rest ih =>
      intro v
      simp only [ask, List.map_cons, ih]
  rw [answersTo, List.map_map]
  exact hask job.sections w

/-- The answer to a request is one that the servers give to its path. -/
theorem served_of_mem_answersTo {w : World} {job : Job}
    {a : Section × Except Fetch.Failure Json} (h : a ∈ w.answersTo job) :
    ∃ count, (w.servers a.1.path count).result = a.2 := by
  have hask : ∀ (sections : List Section) (v : World), v.servers = w.servers →
      ∀ b ∈ (v.ask sections).2, ∃ count, w.servers b.1.path count = b.2 := by
    intro sections
    induction sections with
    | nil => simp [ask]
    | cons s rest ih =>
      intro v hv b hb
      rcases List.mem_cons.1 hb with rfl | hb
      · exact ⟨v.askedCount s.path, by rw [hv]⟩
      · exact ih { v with asked := askedOf v.now s :: v.asked } hv b hb
  obtain ⟨b, hb, rfl⟩ := List.mem_map.1 h
  obtain ⟨count, hcount⟩ := hask job.sections w rfl b hb
  exact ⟨count, by rw [hcount]⟩

/-- A fetch that will succeed has merged its answers with what it read when it began. -/
theorem merge_of_resultOf {w : World} {job : Job} {payload : Json}
    (h : w.resultOf job = .ok payload) :
    Fetch.merge (w.held job.policy.key) (w.answersTo job) = .ok payload := by
  unfold resultOf ending at h
  dsimp only at h
  split at h
  · exact h
  · cases h

/-- The fetch as it was when it joined the line. -/
def asSpawned (j : Job) : Job := { j with stage := .spawned }

theorem asSpawned_of_fresh {j : Job} (h : j.stage = .spawned) : asSpawned j = j := by
  rw [asSpawned, ← h]

/-- A turn that begins a fetch. -/
structure Begins (w v : World) (j : Job) : Prop where
  waits : asSpawned j ∈ w.jobs
  begun : v.begun = ⟨w.now, asSpawned j⟩ :: w.begun

/-! ## Ends -/

/-- A turn that ends a fetch with a result; the fetch has been under way, or it ends as it begins. -/
structure Ends (w v : World) (x : EndedFetch) (result : Except Fetch.Failure Json) : Prop where
  waits : x.job ∈ w.jobs
  course : Begins w v x.job ∧ w.resultOf x.job = result ∨
    ∃ endsAt, x.job.stage = .running endsAt result
  time : x.time = w.now
  outcome : x.outcome = w.outcomeOf x.job result
  jobs : v.jobs = w.jobs.filter (·.id ≠ x.job.id)
  storage : v.storage = w.storageAfter x.job result
  ended : v.ended = x :: w.ended
  bindings : v.bindings = w.bindings.modify x.job.binding (·.receive x.outcome)

/-- How many fetches under way the user of a binding waits for. -/
def awaited (w : World) (n : Nat) : Nat :=
  w.jobs.countP fun j => j.binding = n ∧ j.mode = .foreground

theorem awaited_spawn (w : World) (k : Nat) (mode : Fetch.Mode) (p : Fetch.Policy)
    (sections : List Section) (n : Nat) : (w.spawn k mode p sections).awaited n =
      w.awaited n + if k = n ∧ mode = .foreground then 1 else 0 := by
  simp [awaited, spawn, List.countP_append, List.countP_cons]

theorem awaited_setRunning (w : World) (job : Job) (endsAt : Nat)
    (result : Except Fetch.Failure Json) (n : Nat) :
    (w.setRunning job endsAt result).awaited n = w.awaited n := by
  rw [awaited, setRunning, List.countP_map]
  refine List.countP_congr fun j _ => ?_
  simp only [Function.comp_apply]
  split <;> rfl

/-- What a turn does that ends no fetch. -/
structure NoneEnds (w v : World) : Prop where
  storage : v.storage = w.storage
  ended : v.ended = w.ended
  bindings : v.bindings = w.bindings
  awaited (n : Nat) : v.awaited n = w.awaited n

theorem ends_answers {w : World} {job : Job} (waits : job ∈ w.jobs) (fresh : job.stage = .spawned)
    {endsAt : Nat} {result : Except Fetch.Failure Json}
    (course : (w.beginFetch job).2 = (endsAt, result)) :
    Ends w ((w.beginFetch job).1.finish job result) ⟨w.now, job, w.outcomeOf job result⟩ result := by
  have hresult : w.resultOf job = result := by rw [← beginFetch_result, course]
  obtain ⟨asked, hbegin⟩ := beginFetch_eq w job
  rw [hbegin]
  let v : World := { w with begun := ⟨w.now, job⟩ :: w.begun, asked := asked }
  obtain ⟨mounted, ready, heq, hbindings⟩ := finish_eq v job result
  have houtcome : v.outcomeOf job result = w.outcomeOf job result := by cases result <;> rfl
  have hstorage : v.storageAfter job result = w.storageAfter job result := by cases result <;> rfl
  rw [houtcome] at hbindings
  constructor
  · exact waits
  · refine .inl ⟨⟨?_, ?_⟩, hresult⟩
    · rw [asSpawned_of_fresh fresh]
      exact waits
    · rw [asSpawned_of_fresh fresh]
      exact congrArg World.begun heq
  · rfl
  · rfl
  · exact congrArg World.jobs heq
  · rw [← hstorage]
    exact congrArg World.storage heq
  · rw [← houtcome]
    exact congrArg World.ended heq
  · exact hbindings

theorem ends_finish {w : World} {job : Job} (waits : job ∈ w.jobs) {endsAt : Nat}
    {result : Except Fetch.Failure Json} (course : job.stage = .running endsAt result) :
    Ends w (w.finish job result) ⟨w.now, job, w.outcomeOf job result⟩ result := by
  obtain ⟨mounted, ready, heq, hbindings⟩ := finish_eq w job result
  constructor
  · exact waits
  · exact .inr ⟨endsAt, course⟩
  · rfl
  · rfl
  · rw [heq]
  · rw [heq]
  · rw [heq]
  · exact hbindings

/-- A turn ends one fetch or none. -/
theorem Turn.ends_or {w v : World} (t : Turn w v) :
    NoneEnds w v ∨ ∃ x result, Ends w v x result := by
  cases t with
  | rests => exact .inl ⟨rfl, rfl, rfl, fun n => rfl⟩
  | retimes _ _ => exact .inl ⟨rfl, rfl, bindings_modify_timer w _ _, fun n => rfl⟩
  | setsOut _ _ mode => exact .inl ⟨rfl, rfl, bindings_setOut w _ _ mode, fun n => rfl⟩
  | spawns _ mode aborted =>
    refine .inl ⟨rfl, rfl, bindings_dispatch w _ _ _ aborted, fun n => ?_⟩
    exact (awaited_spawn _ _ _ _ _ n).trans (by simp [mode.property, World.awaited, modify])
  | @begins job _ _ endsAt result _ =>
    obtain ⟨asked, hbegin⟩ := beginFetch_eq w job
    rw [hbegin]
    exact .inl ⟨rfl, rfl, rfl, fun n => awaited_setRunning _ job endsAt result n⟩
  | answers waits fresh course => exact .inr ⟨_, _, ends_answers waits fresh course⟩
  | ends waits course => exact .inr ⟨_, _, ends_finish waits course⟩

/-- A fetch that ends is no longer waited for. -/
theorem Ends.awaited {w v : World} {x : EndedFetch} {result : Except Fetch.Failure Json}
    (e : Ends w v x result) (h : Accounts w) (n : Nat) : w.awaited n =
      v.awaited n + if x.job.binding = n ∧ x.job.mode = .foreground then 1 else 0 := by
  have hcount := (perm_cons_filter h.nodup_jobs e.waits).countP_eq
    (fun j => decide (j.binding = n ∧ j.mode = .foreground))
  rw [← e.jobs, List.countP_cons] at hcount
  simpa only [World.awaited, decide_eq_true_eq] using hcount

/-- A move ends one fetch or none; only a disturbance changes the storage otherwise. -/
theorem move_ends_or (w : World) (m : Move) :
    (w.move m).ended = w.ended ∧
        ((w.move m).storage = w.storage ∨
          ∃ slots getFails setFails, m = .disturb slots getFails setFails) ∨
      ∃ x result, Ends w (w.move m) x result := by
  cases m with
  | mount policy sections =>
    obtain ⟨mounted, nextJob, ready, heq⟩ := mount_eq w policy sections
    exact .inl ⟨(congrArg ended heq).trans rfl, .inl ((congrArg storage heq).trans rfl)⟩
  | refresh n =>
    rcases refresh_cases w n with ⟨heq, -⟩ | ⟨m, -, -, heq⟩
    · exact .inl ⟨congrArg ended heq, .inl (congrArg storage heq)⟩
    · exact .inl ⟨(congrArg ended heq).trans rfl, .inl ((congrArg storage heq).trans rfl)⟩
  | poll n queue =>
    have heq := report_fst w n queue
    exact .inl ⟨(congrArg ended heq).trans rfl, .inl ((congrArg storage heq).trans rfl)⟩
  | goOn task =>
    rcases (turn_runTask w task).ends_or with hnone | hends
    · exact .inl ⟨hnone.ended, .inl hnone.storage⟩
    · exact .inr hends
  | disturb slots getFails setFails => exact .inl ⟨rfl, .inr ⟨_, _, _, rfl⟩⟩
  | unmount | clock | calendar | line | serve => exact .inl ⟨rfl, .inl rfl⟩

/-! ## Fetches under way -/

/-- A fetch that is under way after a turn was so before, has just joined the line, or begins. -/
theorem Turn.mem_jobs {w v : World} (h : Accounts w) (t : Turn w v) {j : Job} (hj : j ∈ v.jobs) :
    j ∈ w.jobs ∨ j.stage = .spawned ∨
      Begins w v j ∧ ∃ endsAt, j.stage = .running endsAt (w.resultOf j) := by
  cases t with
  | rests | retimes | setsOut => exact .inl hj
  | spawns =>
    rcases List.mem_append.1 hj with hj | hj
    · exact .inl hj
    · rw [List.mem_singleton.1 hj]
      exact .inr (.inl rfl)
  | @begins job waits fresh endsAt result course =>
    have hresult : w.resultOf job = result := by rw [← beginFetch_result, course]
    obtain ⟨asked, hbegin⟩ := beginFetch_eq w job
    rw [hbegin] at hj
    rcases List.mem_cons.1 ((setRunning_perm (w := w) h.nodup_jobs waits endsAt result).subset hj) with
      rfl | hj
    · have hfresh : asSpawned { job with stage := .running endsAt result } = job := by
        rw [← asSpawned_of_fresh fresh]
        rfl
      refine .inr (.inr ⟨⟨?_, ?_⟩, endsAt, ?_⟩)
      · rw [hfresh]
        exact waits
      · rw [hfresh, hbegin]
        rfl
      · rw [← hresult]
        rfl
    · exact .inl (List.mem_filter.1 hj).1
  | answers waits fresh course =>
    rw [(ends_answers waits fresh course).jobs] at hj
    exact .inl (List.mem_filter.1 hj).1
  | ends waits course =>
    rw [(ends_finish waits course).jobs] at hj
    exact .inl (List.mem_filter.1 hj).1

theorem mem_concat_spawned {jobs : List Job} {j k : Job} (h : j ∈ jobs ++ [k])
    (fresh : k.stage = .spawned) : j ∈ jobs ∨ j.stage = .spawned := by
  rcases List.mem_append.1 h with h | h
  · exact .inl h
  · rw [List.mem_singleton.1 h]
    exact .inr fresh

theorem move_mem_jobs {w : World} (h : Accounts w) (m : Move) {j : Job} (hj : j ∈ (w.move m).jobs) :
    j ∈ w.jobs ∨ j.stage = .spawned ∨
      Begins w (w.move m) j ∧ ∃ endsAt, j.stage = .running endsAt (w.resultOf j) := by
  cases m with
  | mount policy sections =>
    obtain ⟨mounted, nextJob, ready, heq⟩ := mount_eq w policy sections
    have hjobs := congrArg World.jobs heq
    dsimp only at hjobs
    rw [move, hjobs] at hj
    split at hj
    · exact .inl (by simpa using hj)
    · exact (mem_concat_spawned hj rfl).imp_right .inl
  | refresh n =>
    rcases refresh_cases w n with ⟨heq, -⟩ | ⟨m, -, -, heq⟩
    · rw [move, heq] at hj
      exact .inl hj
    · rw [move, heq] at hj
      exact (mem_concat_spawned hj rfl).imp_right .inl
  | poll n queue =>
    rw [move, report_fst] at hj
    exact .inl hj
  | goOn task => exact (turn_runTask w task).mem_jobs h hj
  | unmount | clock | calendar | line | serve | disturb => exact .inl hj

/-! ## Courses -/

variable {w : World}

/-- A fetch that runs began at some move of the run. -/
theorem begins_of_running (h : Accounts w) (hjobs : w.jobs = []) (moves : List Move) {j : Job}
    (hj : j ∈ (w.run moves).jobs) {endsAt : Nat} {result : Except Fetch.Failure Json}
    (running : j.stage = .running endsAt result) :
    ∃ before first after, moves = before ++ first :: after ∧
      Begins (w.run before) (w.run (before ++ [first])) j ∧ (w.run before).resultOf j = result := by
  induction moves using List.reverseRecOn with
  | nil =>
    rw [run_nil, hjobs] at hj
    cases hj
  | append_singleton moves m ih =>
    rw [run_concat] at hj
    rcases move_mem_jobs (accounts_run h moves) m hj with hj | hj | ⟨hbegins, endsAt', hstage⟩
    · obtain ⟨before, first, after, rfl, hrest⟩ := ih hj
      exact ⟨before, first, after ++ [m], by simp, hrest⟩
    · rw [running] at hj
      cases hj
    · rw [running] at hstage
      cases hstage
      refine ⟨moves, m, [], rfl, ?_, rfl⟩
      rw [run_concat]
      exact hbegins

/-- The course of a fetch within a run from a world: it begins at the first move after `before`, and
ends with a result at the move `last`. -/
structure Course (w : World) (before between : List Move) (last : Move) (x : EndedFetch)
    (result : Except Fetch.Failure Json) : Prop where
  begins : ∃ first ∈ (between ++ [last]).head?,
    Begins (w.run before) (w.run (before ++ [first])) x.job
  known : (w.run before).resultOf x.job = result
  ends : Ends (w.run (before ++ between)) (w.run (before ++ between ++ [last])) x result

/-- Every fetch that has ended in a run has a course within the run. -/
theorem course_of_ended (h : Accounts w) (hjobs : w.jobs = []) (hended : w.ended = [])
    {moves : List Move} {later earlier : List EndedFetch} {x : EndedFetch}
    (hx : (w.run moves).ended = later ++ x :: earlier) :
    ∃ before between last after result, moves = before ++ between ++ last :: after ∧
      (w.run (before ++ between)).ended = earlier ∧ Course w before between last x result := by
  -- On the run from its end: the fetch has ended before the last move, or ends with it.
  induction moves using List.reverseRecOn generalizing later with
  | nil => simp [hended] at hx
  | append_singleton moves m ih =>
    have hkeep {later : List EndedFetch} (hx : (w.run moves).ended = later ++ x :: earlier) :
        ∃ before between last after result, moves ++ [m] = before ++ between ++ last :: after ∧
          (w.run (before ++ between)).ended = earlier ∧ Course w before between last x result := by
      obtain ⟨before, between, last, after, result, rfl, hrest⟩ := ih hx
      exact ⟨before, between, last, after ++ [m], result, by simp, hrest⟩
    rw [run_concat] at hx
    rcases move_ends_or (w.run moves) m with ⟨hsame, -⟩ | ⟨y, result, hends⟩
    · rw [hsame] at hx
      exact hkeep hx
    · rw [hends.ended] at hx
      cases later with
      | cons z later =>
        exact hkeep (List.cons.inj hx).2
      | nil =>
        obtain ⟨rfl, rfl⟩ := List.cons.inj hx
        -- It has begun with this very move, or has been running since an earlier one.
        rcases hends.course with ⟨hbegins, hresult⟩ | ⟨endsAt, hstage⟩
        · refine ⟨moves, [], m, [], result, by simp, by simp, ⟨m, by simp, ?_⟩, hresult, ?_⟩
          · rw [run_concat]
            exact hbegins
          · rw [List.append_nil, run_concat]
            exact hends
        · obtain ⟨before, first, between, rfl, hbegins, hresult⟩ :=
            begins_of_running h hjobs moves hends.waits hstage
          refine ⟨before, first :: between, m, [], result, rfl, rfl, ⟨first, by simp, hbegins⟩,
            hresult, ?_⟩
          rw [run_concat]
          exact hends

/-- A fetch that has succeeded has a course that ends with the data of its entry. -/
theorem course_of_success (h : Accounts w) (hjobs : w.jobs = []) (hended : w.ended = [])
    {moves : List Move} {later earlier : List EndedFetch} {x : EndedFetch}
    (hx : (w.run moves).ended = later ++ x :: earlier) {entry : Cache.Entry}
    (success : x.outcome.result = .ok entry) :
    ∃ before between last after, moves = before ++ between ++ last :: after ∧
      (w.run (before ++ between)).ended = earlier ∧
        Course w before between last x (.ok entry.payload) := by
  obtain ⟨before, between, last, after, result, hmoves, hearlier, course⟩ :=
    course_of_ended h hjobs hended hx
  have hresult : result = .ok entry.payload := by
    rw [course.ends.outcome] at success
    cases result with
    | ok payload =>
      cases success
      rfl
    | error e => cases success
  exact ⟨before, between, last, after, hmoves, hearlier, hresult ▸ course⟩

end World

end Lookout
