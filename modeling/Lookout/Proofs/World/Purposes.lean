import Lookout.Proofs.Binding.History
import Lookout.Proofs.World.Effects

/-!
# What bindings are for

A binding is mounted for a policy and sections, and that never changes: every fetch for it is one for
that policy and those sections, whoever puts it in line and whenever it ends.

* **`purposes_run`** — the bindings of a run are those that its moves mount, in order.
* **`owned_run`** — every fetch is for what its binding is for.
-/

namespace Lookout

/-- What a binding is for: the key of its data, when it is fetched and what is asked. -/
structure Purpose where
  key : String
  policy : Fetch.Policy
  sections : List Section

/-- What a binding with its timer is for. -/
def Mounted.purpose (m : Mounted) : Purpose := ⟨m.binding.key, m.timer.policy, m.timer.sections⟩

/-- What a fetch is for. -/
def Job.purpose (j : Job) : Purpose := ⟨j.policy.key, j.policy, j.sections⟩

/-- What the binding that a move mounts is for. -/
def Move.purpose? : Move → Option Purpose
  | .mount policy sections => some ⟨policy.key, policy, sections⟩
  | _ => none

theorem Binding.key_receive (b : Binding) (o : Fetch.Outcome) : (b.receive o).key = b.key := by
  unfold receive
  split <;> rfl

theorem Binding.key_poll (b : Binding) : b.poll.key = b.key := by
  have hfold : ∀ (os : List Fetch.Outcome) (c : Binding), (os.foldl apply c).key = c.key := by
    intro os
    induction os with
    | nil => exact fun c => rfl
    | cons o os ih => exact fun c => (ih (c.apply o)).trans (c.key_apply o)
  exact hfold b.inbox _

namespace World

/-- What the bindings are for, by their numbers. -/
def purposes (w : World) : List Purpose := w.mounted.map (·.purpose)

theorem purposes_modify {w : World} {n : Nat} {f : Mounted → Mounted}
    (h : ∀ m, w.mounted[n]? = some m → (f m).purpose = m.purpose) :
    (w.modify n f).purposes = w.purposes := by
  apply List.ext_getElem?
  intro i
  simp only [purposes, modify, List.getElem?_map, List.getElem?_modify]
  by_cases hi : n = i
  · subst hi
    cases hm : w.mounted[n]? with
    | none => rfl
    | some m => simp [h m hm]
  · simp [hi]

theorem purposes_wakeTimer (w : World) (job : Job) (succeeded : Bool) :
    (w.wakeTimer job succeeded).purposes = w.purposes := by
  have hhear : ∀ m : Mounted, Mounted.purpose
      { m with timer := Timer.hear job.id succeeded m.timer } = m.purpose := by
    intro m
    obtain ⟨binding, policy, sections, wait, stage⟩ := m
    cases stage with
    | awaiting id mode =>
      simp only [Timer.hear]
      split <;> rfl
    | fresh | sleeping | dispatching | answered | stopped => rfl
  unfold wakeTimer
  split
  · split
    · exact purposes_modify fun m _ => hhear m
    · rfl
  · rfl

theorem purposes_finish (w : World) (job : Job) (result : Except Fetch.Failure Json) :
    (w.finish job result).purposes = w.purposes := by
  have hreceive (o : Fetch.Outcome) (m : Mounted) :
      Mounted.purpose { m with binding := m.binding.receive o } = m.purpose := by
    rw [Mounted.purpose, Binding.key_receive, Mounted.purpose]
  cases result with
  | ok payload => exact (purposes_wakeTimer _ job true).trans (purposes_modify fun m _ => hreceive _ m)
  | error e => exact (purposes_wakeTimer _ job false).trans (purposes_modify fun m _ => hreceive _ m)

/-- No task changes what a binding is for. -/
theorem Turn.purposes {w v : World} (t : Turn w v) : v.purposes = w.purposes := by
  -- The timer that is set is one for the same fetches.
  have hset {n : Nat} {m : Mounted} (mounted : w.mounted[n]? = some m) {t : Timer}
      (same : Timer.Same t m.timer) (stage : TimerStage) : (w.modify n fun m =>
        { m with timer := { t with stage := stage } }).purposes = w.purposes := by
    refine purposes_modify fun k hk => ?_
    obtain rfl : m = k := Option.some.inj (mounted.symm.trans hk)
    simp only [Mounted.purpose, same.1, same.2]
  cases t with
  | rests => rfl
  | retimes mounted same => exact hset mounted same _
  | setsOut mounted same mode => exact hset mounted same _
  | spawns mounted mode aborted => exact hset mounted ⟨rfl, rfl⟩ _
  | @begins job _ _ endsAt result _ =>
    obtain ⟨asked, hbegin⟩ := beginFetch_eq w job
    rw [hbegin]
    rfl
  | @answers job _ _ endsAt result _ =>
    obtain ⟨asked, hbegin⟩ := beginFetch_eq w job
    rw [purposes_finish, hbegin]
    rfl
  | ends => exact purposes_finish _ _ _

theorem purposes_mount (w : World) (policy : Fetch.Policy) (sections : List Section) :
    (w.mount policy sections).purposes = w.purposes ++ [⟨policy.key, policy, sections⟩] := by
  unfold mount
  dsimp only
  split <;> simp [purposes, spawn, Mounted.purpose, Binding.mounted]

/-- A move adds the binding that it mounts. -/
theorem purposes_move (w : World) (m : Move) :
    (w.move m).purposes = w.purposes ++ m.purpose?.toList := by
  cases m with
  | mount policy sections => exact purposes_mount w policy sections
  | refresh n =>
    rcases refresh_cases w n with ⟨heq, -⟩ | ⟨m, -, -, heq⟩
    · rw [move, heq]
      exact (List.append_nil _).symm
    · have hmodify : (w.modify n fun m => { m with binding := m.binding.refreshed }).purposes =
          w.purposes := purposes_modify fun _ _ => rfl
      rw [move, heq]
      exact hmodify.trans (List.append_nil _).symm
  | poll n queue =>
    have hpoll : (w.poll n).purposes = w.purposes := by
      refine purposes_modify fun m _ => ?_
      rw [Mounted.purpose, Binding.key_poll, Mounted.purpose]
    rw [move, report_fst, hpoll]
    exact (List.append_nil _).symm
  | unmount n =>
    have hunmount : (w.unmount n).purposes = w.purposes := by
      refine purposes_modify fun m _ => ?_
      simp only [Mounted.purpose, Timer.policy_abort, Timer.sections_abort]
      rfl
    exact hunmount.trans (List.append_nil _).symm
  | goOn task => exact (turn_runTask w task).purposes.trans (List.append_nil _).symm
  | clock | calendar | line | serve | disturb => exact (List.append_nil _).symm

/-- The bindings of a run are those that its moves mount, in order. -/
theorem purposes_run (w : World) (moves : List Move) :
    (w.run moves).purposes = w.purposes ++ moves.filterMap (·.purpose?) := by
  induction moves generalizing w with
  | nil => exact (List.append_nil _).symm
  | cons m moves ih =>
    show ((w.move m).run moves).purposes = _
    rw [ih, purposes_move, List.append_assoc, filterMap_cons_eq]

@[simp] theorem length_purposes (w : World) : w.purposes.length = w.mounted.length := by
  simp [purposes]

/-- Every fetch, whether under way, begun or ended, is for what its binding is for. -/
structure Owned (w : World) : Prop where
  keys : ∀ p ∈ w.purposes, p.key = p.policy.key
  jobs : ∀ j ∈ w.jobs, w.purposes[j.binding]? = some j.purpose
  begun : ∀ f ∈ w.begun, w.purposes[f.job.binding]? = some f.job.purpose
  ended : ∀ x ∈ w.ended, w.purposes[x.job.binding]? = some x.job.purpose

theorem owned_start (calendar : Int) (space : String) (storage : Cache.Storage) (servers : Servers) :
    Owned (start calendar space storage servers) where
  keys := List.forall_mem_nil _
  jobs := List.forall_mem_nil _
  begun := List.forall_mem_nil _
  ended := List.forall_mem_nil _

/-- A fetch that the timer of a binding asks for is for what the binding is for. -/
theorem Owned.purpose_of_timer {w : World} (h : Owned w) {n : Nat} {t : Timer}
    (ht : w.timers[n]? = some t) :
    w.purposes[n]? = some ⟨t.policy.key, t.policy, t.sections⟩ := by
  obtain ⟨m, hm, rfl⟩ := exists_of_timers ht
  have hpurpose : w.purposes[n]? = some m.purpose := by
    rw [purposes, List.getElem?_map, hm]
    rfl
  have hkey : m.binding.key = m.timer.policy.key := h.keys _ (List.mem_of_getElem? hpurpose)
  rw [hpurpose, Mounted.purpose, hkey]

/-- What a move does to the books leaves every fetch with what its binding is for. -/
theorem Owned.effect {w : World} (h : Owned w) {m : Move} {b : Books} (e : Effect w m b)
    {purposes : List Purpose} (hpurposes : purposes = w.purposes ++ m.purpose?.toList) :
    (∀ j ∈ b.jobs, purposes[j.binding]? = some j.purpose) ∧
      (∀ f ∈ b.begun, purposes[f.job.binding]? = some f.job.purpose) ∧
      ∀ x ∈ b.ended, purposes[x.job.binding]? = some x.job.purpose := by
  have hstay {n : Nat} {p : Purpose} (hp : w.purposes[n]? = some p) : purposes[n]? = some p := by
    rw [hpurposes, List.getElem?_append_left (List.getElem?_eq_some_iff.1 hp).1, hp]
  have hjobs (j : Job) (hj : j ∈ w.jobs) := hstay (h.jobs j hj)
  have hbegun (f : BegunFetch) (hf : f ∈ w.begun) := hstay (h.begun f hf)
  have hended (x : EndedFetch) (hx : x ∈ w.ended) := hstay (h.ended x hx)
  have hnew {job : Job} (hjob : purposes[job.binding]? = some job.purpose) :
      ∀ j ∈ w.jobs ++ [job], purposes[j.binding]? = some j.purpose := by
    intro j hj
    rcases List.mem_append.1 hj with hj | hj
    · exact hjobs j hj
    · rw [List.mem_singleton.1 hj]
      exact hjob
  have hrest (id : Nat) : ∀ j ∈ w.jobs.filter (·.id ≠ id), purposes[j.binding]? = some j.purpose :=
    fun j hj => hjobs j (List.mem_filter.1 hj).1
  cases e with
  | rests | unmounts | sleeps | setsOut => exact ⟨hjobs, hbegun, hended⟩
  | mounts policy sections =>
    refine ⟨?_, hbegun, hended⟩
    show ∀ j ∈ w.jobs ++ ite _ _ _, _
    split
    · rw [List.append_nil]
      exact hjobs
    · refine hnew ?_
      rw [hpurposes, ← length_purposes]
      exact List.getElem?_concat_length
  | refreshes there live =>
    exact ⟨hnew (hstay (h.purpose_of_timer (getElem?_timers there))), hbegun, hended⟩
  | fetches there stage => exact ⟨hnew (hstay (h.purpose_of_timer there)), hbegun, hended⟩
  | @begins job waits fresh endsAt result course early =>
    refine ⟨?_, List.forall_mem_cons.2 ⟨hjobs job waits, hbegun⟩, hended⟩
    intro j hj
    obtain ⟨k, hk, rfl⟩ := List.mem_map.1 hj
    have hkeep := hjobs k hk
    split <;> exact hkeep
  | @answers job waits fresh endsAt result course due =>
    exact ⟨hrest _, List.forall_mem_cons.2 ⟨hjobs job waits, hbegun⟩,
      List.forall_mem_cons.2 ⟨hjobs job waits, hended⟩⟩
  | @ends job waits endsAt result course due =>
    exact ⟨hrest _, hbegun, List.forall_mem_cons.2 ⟨hjobs job waits, hended⟩⟩

theorem Owned.move {w : World} (h : Owned w) (m : Move) : Owned (w.move m) := by
  have hpurposes := purposes_move w m
  obtain ⟨hjobs, hbegun, hended⟩ := h.effect (effect_move w m) hpurposes
  refine ⟨?_, hjobs, hbegun, hended⟩
  intro p hp
  rw [hpurposes] at hp
  rcases List.mem_append.1 hp with hp | hp
  · exact h.keys p hp
  · cases m with
    | mount policy sections =>
      rw [List.mem_singleton.1 hp]
    | refresh | poll | unmount | goOn | clock | calendar | line | serve | disturb => cases hp

/-- Every fetch of a run is for what its binding is for. -/
theorem owned_run {w : World} (h : Owned w) (moves : List Move) : Owned (w.run moves) :=
  run_invariant (fun _ m hw => hw.move m) h moves

end World

end Lookout
