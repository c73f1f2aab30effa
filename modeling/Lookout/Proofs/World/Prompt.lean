import Lookout.Proofs.World.Sessions

/-!
# Runs in time

The moves of a run let any task go on at any moment and put the clock anywhere. In a run in time the clock
only moves on when nothing can go on any more, and no farther than to the next moment at which something
does: nothing is late and nothing is early.

* **`Rests.timer`** — the timers of a world at rest sleep, wait or have been stopped.
* **`Rests.job`** — the fetches under way in a world at rest will all take their time.
-/

namespace Lookout

namespace World

/-- Nothing can go on at the moment. -/
def Rests (w : World) : Prop := ∀ task, w.runTask task = w

/-- A move is in time: the clock moves on only in a world at rest, and no farther than to the next moment
at which something goes on by itself. -/
def InTime (w : World) : Move → Prop
  | .clock time => Rests w ∧ w.now ≤ time ∧ ∀ due ∈ w.dueTimes, time ≤ due
  | _ => True

/-- Every move of a run is in time. -/
def Prompt (w : World) : List Move → Prop
  | [] => True
  | m :: moves => InTime w m ∧ Prompt (w.move m) moves

theorem prompt_append {w : World} {moves more : List Move} :
    Prompt w (moves ++ more) ↔ Prompt w moves ∧ Prompt (w.run moves) more := by
  induction moves generalizing w with
  | nil => exact ⟨fun h => ⟨trivial, h⟩, And.right⟩
  | cons m moves ih =>
    show InTime w m ∧ Prompt (w.move m) (moves ++ more) ↔ _
    rw [ih, ← and_assoc]
    rfl

/-- Only the clock changes the time. -/
theorem move_now {w : World} {m : Move} (h : ∀ time, m ≠ .clock time) : (w.move m).now = w.now := by
  cases m with
  | mount policy sections =>
    obtain ⟨mounted, nextJob, ready, heq⟩ := mount_eq w policy sections
    exact (congrArg now heq).trans rfl
  | refresh n =>
    rcases refresh_cases w n with ⟨heq, -⟩ | ⟨m, -, -, heq⟩
    · exact congrArg now heq
    · exact (congrArg now heq).trans rfl
  | poll n queue => exact (congrArg now (report_fst w n queue)).trans rfl
  | goOn task => exact runTask_now w task
  | clock time => exact absurd rfl (h time)
  | unmount | calendar | line | serve | disturb => rfl

theorem run_now {w : World} {moves : List Move} (h : ∀ m ∈ moves, ∀ time, m ≠ .clock time) :
    (w.run moves).now = w.now := by
  induction moves generalizing w with
  | nil => rfl
  | cons m moves ih =>
    obtain ⟨hm, hmoves⟩ := List.forall_mem_cons.1 h
    exact (ih hmoves).trans (move_now hm)

/-! ## Worlds at rest -/

variable {w : World}

/-- No timer of a world at rest is about to spawn a fetch. -/
theorem Rests.not_dispatching (h : Rests w) {n : Nat} {t : Timer} (ht : w.timers[n]? = some t)
    {mode : Fetch.QuietMode} {aborted : Bool} : t.stage ≠ .dispatching mode aborted := by
  intro hstage
  obtain ⟨m, hm, rfl⟩ := exists_of_timers ht
  have hstill := h (.timer n)
  simp only [runTask, hm, runTimer, hstage] at hstill
  -- It would put a fetch in line.
  have hcount := congrArg nextJob hstill
  exact absurd hcount (Nat.succ_ne_self w.nextJob)

/-- A timer of a world at rest that aims at a time sleeps until its time comes. -/
theorem Rests.timer (h : Rests w) {n : Nat} {t t' : Timer} (ht : w.timers[n]? = some t) {till : Nat}
    {mode : Fetch.QuietMode} (aim : Timer.aim? w.now t = some (t', till, mode)) :
    t.stage = .sleeping till mode ∧ w.now < till ∧ till ∈ w.dueTimes := by
  obtain ⟨m, hm, rfl⟩ := exists_of_timers ht
  have hstill : w.runTimer n m.timer = w := by
    have htask := h (.timer n)
    simp only [runTask, hm] at htask
    exact htask
  rw [runTimer_eq hm, aim] at hstill
  split at hstill
  · next mode aborted stage => exact absurd stage (h.not_dispatching ht)
  · dsimp only at hstill
    split at hstill
    · -- It would stand at the head of the line.
      have hlength := congrArg (fun v => v.ready.length) hstill
      exact absurd hlength (Nat.succ_ne_self w.ready.length)
    · next early =>
      have hstage : m.timer.stage = .sleeping till mode := by
        have hsame := congrArg (fun v => (v.mounted[n]?).map (·.timer.stage)) hstill
        simp only [modify, List.getElem?_modify_eq, hm] at hsame
        exact (Option.some.inj hsame).symm
      refine ⟨hstage, Nat.lt_of_not_le early, ?_⟩
      refine List.mem_append_right _ (List.mem_filterMap.2 ⟨m, List.mem_of_getElem? hm, ?_⟩)
      rw [hstage]

/-- The fetches under way in a world at rest have begun and will take their time. -/
theorem Rests.job (h : Rests w) (a : Accounts w) {j : Job} (hj : j ∈ w.jobs) :
    ∃ endsAt result, j.stage = .running endsAt result ∧ w.now < endsAt ∧ endsAt ∈ w.dueTimes := by
  have hstill : w.runJob j = w := by
    have htask := h (.job j.id)
    simp only [runTask, a.find?_id hj] at htask
    exact htask
  cases hstage : j.stage with
  | spawned =>
    -- It would begin.
    have hbegun : (w.beginFetch j).1.begun.length = w.begun.length + 1 := by rw [beginFetch_fst]; rfl
    have hlength : (w.runJob j).begun.length = w.begun.length + 1 := by
      rw [runJob, hstage]
      dsimp only
      split
      · have hbooks := books_finish (w.beginFetch j).1 j (w.beginFetch j).2.2
        exact (congrArg (fun b => b.begun.length) hbooks).trans hbegun
      · exact hbegun
    rw [hstill] at hlength
    exact absurd hlength (Nat.ne_of_lt (Nat.lt_succ_self _))
  | running endsAt result =>
    refine ⟨endsAt, result, rfl, ?_, ?_⟩
    · by_contra hdue
      have hends : w.runJob j = w.finish j result := by
        simp only [runJob, hstage, if_pos (Nat.le_of_not_lt hdue)]
      have hbooks := books_finish w j result
      rw [← hends, hstill] at hbooks
      have hlength := congrArg (fun b => b.ended.length) hbooks
      exact absurd hlength (Nat.ne_of_lt (Nat.lt_succ_self _))
    · refine List.mem_append_left _ (List.mem_filterMap.2 ⟨j, hj, ?_⟩)
      rw [hstage]

/-- A world without fetches under way in which every timer sleeps is at rest. -/
theorem rests_of_asleep (jobs : w.jobs = [])
    (asleep : ∀ stage ∈ w.timers.map (·.stage), ∃ till mode, stage = .sleeping till mode ∧ w.now < till) :
    Rests w := by
  intro task
  cases task with
  | job id => simp [runTask, jobs]
  | timer n =>
    cases hm : w.mounted[n]? with
    | none => simp only [runTask, hm]
    | some m =>
      have hmem : m.timer.stage ∈ w.timers.map (·.stage) :=
        List.mem_map_of_mem (List.mem_of_getElem? (getElem?_timers hm))
      obtain ⟨till, mode, hstage, hlater⟩ := asleep _ hmem
      simp only [runTask, hm, runTimer, hstage, if_neg (Nat.not_le_of_lt hlater)]

end World

end Lookout
