import Lookout.Proofs.World.Moves
import Mathlib.Data.List.Perm.Basic
import Mathlib.Data.List.Range

/-!
# The numbers of fetches

Every fetch that has ever been spawned is either under way or has ended, once, under a number of its
own. A fetch that has begun is running or has ended.

* **`accounts_run`** — the accounts of fetches are in order after every run.
-/

namespace Lookout

/-- The fetch has begun. -/
def Job.isRunning (j : Job) : Bool :=
  match j.stage with
  | .spawned => false
  | .running _ _ => true

theorem Job.isRunning_spawned {j : Job} (h : j.stage = .spawned) : j.isRunning = false := by
  simp [isRunning, h]

theorem Job.isRunning_running {j : Job} {endsAt : Nat} {result : Except Fetch.Failure Json}
    (h : j.stage = .running endsAt result) : j.isRunning = true := by
  simp [isRunning, h]

namespace World

/-- The numbers of the fetches that have ended, latest first. -/
def endedIds (w : World) : List Nat := w.ended.map (·.job.id)

/-- The numbers of the fetches that run. -/
def runningIds (w : World) : List Nat := (w.jobs.filter Job.isRunning).map (·.id)

/-- The accounts of fetches: every number that has been given out belongs to one fetch, under way or
ended; the fetches that have begun are those that run and those that have ended; and every fetch is for
a binding that has been mounted. -/
structure Accounts (w : World) : Prop where
  numbers : (w.jobs.map (·.id) ++ w.endedIds).Perm (List.range w.nextJob)
  begun : (w.begun.map (·.job.id)).Perm (w.runningIds ++ w.endedIds)
  jobs_lt : ∀ j ∈ w.jobs, j.binding < w.mounted.length
  ended_lt : ∀ x ∈ w.ended, x.job.binding < w.mounted.length

namespace Accounts

variable {w : World}

theorem nodup (h : Accounts w) : (w.jobs.map (·.id) ++ w.endedIds).Nodup :=
  h.numbers.nodup_iff.2 List.nodup_range

theorem nodup_jobs (h : Accounts w) : (w.jobs.map (·.id)).Nodup := (List.nodup_append.1 h.nodup).1

theorem nodup_begun (h : Accounts w) : (w.runningIds ++ w.endedIds).Nodup :=
  h.nodup.sublist ((List.filter_sublist.map _).append_right _)

/-- A fetch that has begun runs or has ended, once. -/
theorem count_of_begun (h : Accounts w) {f : BegunFetch} (hf : f ∈ w.begun) :
    w.runningIds.count f.job.id + w.endedIds.count f.job.id = 1 := by
  have hmem : f.job.id ∈ w.runningIds ++ w.endedIds :=
    h.begun.subset (List.mem_map_of_mem hf)
  rw [← List.count_append, h.nodup_begun.count, if_pos hmem]

/-- A fetch that has ended has begun, once. -/
theorem count_of_ended (h : Accounts w) {x : EndedFetch} (hx : x ∈ w.ended) :
    (w.begun.map (·.job.id)).count x.job.id = 1 := by
  have hmem : x.job.id ∈ w.runningIds ++ w.endedIds :=
    List.mem_append_right _ (List.mem_map_of_mem hx)
  rw [h.begun.count_eq, h.nodup_begun.count, if_pos hmem]

end Accounts

/-! ## One fetch among those under way -/

/-- The fetch of a number stands beside all those of other numbers. -/
theorem perm_cons_filter {jobs : List Job} (nodup : (jobs.map (·.id)).Nodup) {job : Job}
    (h : job ∈ jobs) : jobs.Perm (job :: jobs.filter (·.id ≠ job.id)) := by
  induction jobs with
  | nil => cases h
  | cons j rest ih =>
    obtain ⟨fresh, nodup⟩ := List.nodup_cons.1 nodup
    rcases List.mem_cons.1 h with rfl | h
    · have hrest : rest.filter (·.id ≠ job.id) = rest := by
        rw [List.filter_eq_self]
        intro k hk
        have hne : k.id ≠ job.id := fun heq => fresh (List.mem_map.2 ⟨k, hk, heq⟩)
        simpa using hne
      rw [List.filter_cons_of_neg (by simp), hrest]
    · have hne : j.id ≠ job.id := fun heq => fresh (List.mem_map.2 ⟨job, h, heq.symm⟩)
      rw [List.filter_cons_of_pos (by simpa using hne)]
      exact ((ih nodup h).cons j).trans (List.Perm.swap job j _)

/-- A fetch that begins stays under way beside the others. -/
theorem setRunning_perm {w : World} (nodup : (w.jobs.map (·.id)).Nodup) {job : Job}
    (h : job ∈ w.jobs) (endsAt : Nat) (result : Except Fetch.Failure Json) :
    (w.setRunning job endsAt result).jobs.Perm
      ({ job with stage := .running endsAt result } :: w.jobs.filter (·.id ≠ job.id)) := by
  have hperm := (perm_cons_filter nodup h).map fun j : Job =>
    if j.id = job.id then { j with stage := .running endsAt result } else j
  have hrest : (w.jobs.filter (·.id ≠ job.id)).map (fun j : Job =>
      if j.id = job.id then { j with stage := .running endsAt result } else j) =
      w.jobs.filter (·.id ≠ job.id) := by
    refine (List.map_congr_left fun j hj => ?_).trans (List.map_id _)
    have hne : j.id ≠ job.id := by simpa using (List.mem_filter.1 hj).2
    rw [if_neg hne]
    rfl
  rw [List.map_cons, if_pos rfl, hrest] at hperm
  exact hperm

/-! ## The accounts stay in order -/

theorem accounts_start (calendar : Int) (space : String) (storage : Cache.Storage)
    (servers : Servers) : Accounts (start calendar space storage servers) where
  numbers := List.Perm.nil
  begun := List.Perm.nil
  jobs_lt := by simp [start]
  ended_lt := by simp [start]

/-- What the accounts are about. -/
theorem Accounts.congr {w v : World} (h : Accounts w) (jobs : v.jobs = w.jobs)
    (ended : v.ended = w.ended) (begun : v.begun = w.begun) (nextJob : v.nextJob = w.nextJob)
    (length : w.mounted.length ≤ v.mounted.length) : Accounts v where
  numbers := by rw [endedIds, jobs, ended, nextJob]; exact h.numbers
  begun := by rw [runningIds, endedIds, jobs, ended, begun]; exact h.begun
  jobs_lt := by rw [jobs]; exact fun j hj => (h.jobs_lt j hj).trans_le length
  ended_lt := by rw [ended]; exact fun x hx => (h.ended_lt x hx).trans_le length

theorem Accounts.modify {w : World} (h : Accounts w) (n : Nat) (f : Mounted → Mounted) :
    Accounts (w.modify n f) :=
  h.congr rfl rfl rfl rfl (by simp [World.modify])

theorem Accounts.spawn {w : World} (h : Accounts w) {n : Nat} (hn : n < w.mounted.length)
    (mode : Fetch.Mode) (p : Fetch.Policy) (sections : List Section) :
    Accounts (w.spawn n mode p sections) where
  numbers := by
    have hlast : (w.jobs.map (·.id) ++ [w.nextJob] ++ w.endedIds).Perm
        (w.jobs.map (·.id) ++ w.endedIds ++ [w.nextJob]) := by
      rw [List.append_assoc, List.append_assoc]
      exact List.perm_append_comm.append_left _
    simpa [World.spawn, endedIds, List.range_succ] using hlast.trans (h.numbers.append_right _)
  begun := by
    have hspawned : Job.isRunning ⟨w.nextJob, n, mode, p, sections, .spawned⟩ = false := rfl
    simpa [World.spawn, runningIds, endedIds, hspawned] using h.begun
  jobs_lt := by
    intro j hj
    rcases List.mem_append.1 hj with hj | hj
    · exact h.jobs_lt j hj
    · rw [List.mem_singleton.1 hj]
      exact hn
  ended_lt := h.ended_lt

theorem Accounts.begins {w : World} (h : Accounts w) {job : Job} (waits : job ∈ w.jobs)
    (fresh : job.stage = .spawned) (endsAt : Nat) (result : Except Fetch.Failure Json) :
    Accounts ((w.beginFetch job).1.setRunning job endsAt result) := by
  obtain ⟨asked, hbegin⟩ := beginFetch_eq w job
  rw [hbegin]
  have hbefore := perm_cons_filter h.nodup_jobs waits
  have hafter := setRunning_perm (w := w) h.nodup_jobs waits endsAt result
  constructor
  · have hids : ((w.setRunning job endsAt result).jobs.map (·.id)).Perm (w.jobs.map (·.id)) :=
      (hafter.map (·.id)).trans (hbefore.map (·.id)).symm
    exact (hids.append_right _).trans h.numbers
  · have hrunning : ((w.setRunning job endsAt result).jobs.filter Job.isRunning).Perm
        ({ job with stage := .running endsAt result } :: w.jobs.filter Job.isRunning) := by
      have hwaiting := hbefore.filter Job.isRunning
      rw [List.filter_cons_of_neg (by simp [Job.isRunning_spawned fresh])] at hwaiting
      exact (hafter.filter _).trans (hwaiting.symm.cons _)
    have hids := (hrunning.map (·.id)).append_right w.endedIds
    exact (h.begun.cons job.id).trans hids.symm
  · intro j hj
    rcases List.mem_cons.1 (hafter.subset hj) with rfl | hj
    · exact h.jobs_lt job waits
    · exact h.jobs_lt j (List.mem_filter.1 hj).1
  · exact h.ended_lt

/-- A fetch that ends moves from those under way to those that have ended. It has begun by then, whether
it was running or has just been asked. -/
theorem Accounts.finish {w : World} {job : Job} (waits : job ∈ w.jobs)
    (numbers : (w.jobs.map (·.id) ++ w.endedIds).Perm (List.range w.nextJob))
    (begun : (w.begun.map (·.job.id)).Perm
      (job.id :: ((w.jobs.filter (·.id ≠ job.id)).filter Job.isRunning).map (·.id) ++ w.endedIds))
    (jobs_lt : ∀ j ∈ w.jobs, j.binding < w.mounted.length)
    (ended_lt : ∀ x ∈ w.ended, x.job.binding < w.mounted.length)
    (result : Except Fetch.Failure Json) : Accounts (w.finish job result) := by
  obtain ⟨mounted, ready, heq, hbindings⟩ := finish_eq w job result
  have hlength : mounted.length = w.mounted.length := by
    have hcount := congrArg List.length hbindings
    rw [heq] at hcount
    simpa using hcount
  have nodup : (w.jobs.map (·.id)).Nodup :=
    (List.nodup_append.1 (numbers.nodup_iff.2 List.nodup_range)).1
  have hjobs := perm_cons_filter nodup waits
  rw [heq]
  constructor
  · have hids := (hjobs.map (·.id)).append_right w.endedIds
    exact List.perm_middle.trans (hids.symm.trans numbers)
  · exact begun.trans List.perm_middle.symm
  · intro j hj
    rw [hlength]
    exact jobs_lt j (List.mem_filter.1 hj).1
  · intro x hx
    rw [hlength]
    rcases List.mem_cons.1 hx with rfl | hx
    · exact jobs_lt job waits
    · exact ended_lt x hx

theorem Accounts.answers {w : World} (h : Accounts w) {job : Job} (waits : job ∈ w.jobs)
    (fresh : job.stage = .spawned) (result : Except Fetch.Failure Json) :
    Accounts ((w.beginFetch job).1.finish job result) := by
  obtain ⟨asked, hbegin⟩ := beginFetch_eq w job
  have hrunning := (perm_cons_filter h.nodup_jobs waits).filter Job.isRunning
  rw [List.filter_cons_of_neg (by simp [Job.isRunning_spawned fresh])] at hrunning
  rw [hbegin]
  let v : World := { w with begun := ⟨w.now, job⟩ :: w.begun, asked := asked }
  refine Accounts.finish (w := v) waits h.numbers ?_ h.jobs_lt h.ended_lt result
  exact (h.begun.trans ((hrunning.map (·.id)).append_right _)).cons job.id

theorem Accounts.ends {w : World} (h : Accounts w) {job : Job} (waits : job ∈ w.jobs) {endsAt : Nat}
    {result : Except Fetch.Failure Json} (course : job.stage = .running endsAt result) :
    Accounts (w.finish job result) := by
  have hrunning := (perm_cons_filter h.nodup_jobs waits).filter Job.isRunning
  rw [List.filter_cons_of_pos (Job.isRunning_running course)] at hrunning
  refine Accounts.finish waits h.numbers ?_ h.jobs_lt h.ended_lt result
  exact h.begun.trans ((hrunning.map (·.id)).append_right _)

theorem Accounts.turn {w v : World} (h : Accounts w) (t : Turn w v) : Accounts v := by
  cases t with
  | rests => exact h
  | retimes _ _ => exact h.modify _ _
  | setsOut _ _ _ => exact (h.modify _ _).congr rfl rfl rfl rfl le_rfl
  | spawns mounted _ _ =>
    have hn := (List.getElem?_eq_some_iff.1 mounted).1
    exact (h.modify _ _).spawn (by simpa [World.modify] using hn) _ _ _
  | begins waits fresh _ => exact h.begins waits fresh _ _
  | answers waits fresh _ => exact h.answers waits fresh _
  | ends waits course => exact h.ends waits course

theorem Accounts.mount {w : World} (h : Accounts w) (policy : Fetch.Policy)
    (sections : List Section) : Accounts (w.mount policy sections) := by
  unfold World.mount
  dsimp only
  split
  · exact h.congr rfl rfl rfl rfl (by simp)
  · let v : World :=
      { w with mounted := w.mounted ++ [⟨.mounted policy.key (w.read policy.key),
          ⟨policy, sections, policy.interval, .fresh (w.read policy.key).isSome⟩⟩] }
    have hv : Accounts v := h.congr rfl rfl rfl rfl (by simp [v])
    exact (hv.spawn (by simp [v]) _ _ _).congr rfl rfl rfl rfl le_rfl

theorem Accounts.refresh {w : World} (h : Accounts w) (n : Nat) : Accounts (w.refresh n) := by
  rcases refresh_cases w n with ⟨heq, -⟩ | ⟨m, hm, -, heq⟩
  · rw [heq]
    exact h
  · rw [heq]
    have hn := (List.getElem?_eq_some_iff.1 hm).1
    exact (h.modify _ _).spawn (by simpa [World.modify] using hn) _ _ _

theorem Accounts.move {w : World} (h : Accounts w) (m : Move) : Accounts (w.move m) := by
  cases m with
  | mount policy sections => exact h.mount policy sections
  | refresh n => exact h.refresh n
  | poll n queue =>
    show Accounts (w.report n queue).1
    rw [report_fst]
    exact h.modify _ _
  | unmount n => exact h.modify _ _
  | goOn task => exact h.turn (turn_runTask w task)
  | clock | calendar | line | serve | disturb => exact h.congr rfl rfl rfl rfl le_rfl

/-- The accounts of fetches are in order after every run. -/
theorem accounts_run {w : World} (h : Accounts w) (moves : List Move) : Accounts (w.run moves) :=
  run_invariant (fun _ m hw => hw.move m) h moves

end World

end Lookout
