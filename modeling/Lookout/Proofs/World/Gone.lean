import Lookout.Proofs.World.Reached
import Lookout.Proofs.World.Reads

/-!
# Bindings that are gone

Unmounting a binding aborts its timer and empties its inbox, and nothing that happens later brings it
back: it stays as it is, nothing is told about it and nothing is fetched for it that was not under way
already. The fetches that were under way go on, and each of them may still write its success to the
cache, which is all that it does.

A timer runs beside the pages and stops where it rests. If it has left its sleep when it is aborted, it
spawns one fetch before it stops, as if the binding had been unmounted right after that.

* **`unmount_runTimer`** — unmounting a binding and the spawning of a fetch by its timer can change places.
* **`Gone.move_other`**, **`Gone.runTask_timer`** — a binding that is gone stays as it is.
* **`runJob_of_gone`** — what a fetch for such a binding still does when it goes on.
* **`silent_run`** — what remains of such a binding after every run.
-/

namespace Lookout

/-! ## Bindings and timers at rest -/

namespace Binding

variable {b : Binding}

theorem receive_of_terminal (h : b.state = .terminal) (o : Fetch.Outcome) : b.receive o = b := by
  simp [receive, isMounted, h]

theorem poll_of_inbox (h : b.inbox = []) : b.poll = b := by
  obtain ⟨key, state, snapshot, error, count, inbox⟩ := b
  obtain rfl : inbox = [] := h
  rfl

theorem unmount_of_terminal (h : b.state = .terminal) (hinbox : b.inbox = []) : b.unmount = b := by
  obtain ⟨key, state, snapshot, error, count, inbox⟩ := b
  obtain rfl : inbox = [] := hinbox
  obtain rfl : state = .terminal := h
  rfl

end Binding

/-- The binding with its timer stopped. -/
def Mounted.stopped (m : Mounted) : Mounted := { m with timer := { m.timer with stage := .stopped } }

namespace World

/-- Aborting a timer once more changes nothing. -/
theorem Timer.abort_of_isAborted {t : Timer} (h : Timer.IsAborted t) : Timer.abort t = t := by
  obtain ⟨policy, sections, wait, stage⟩ := t
  rcases h with rfl | ⟨mode, rfl⟩ <;> rfl

/-- The fetch that a timer is about to spawn for the binding of a number, under the number that the fetch
is to have. -/
def Timer.errand? (t : Timer) (n id : Nat) : Option Job :=
  match t.stage with
  | .dispatching mode _ => some ⟨id, n, mode, t.policy, t.sections, .spawned⟩
  | _ => none

/-- The fetch that the timer of a binding is about to spawn, under the number that it is to have. -/
def errand? (w : World) (n id : Nat) : Option Job :=
  (w.mounted[n]?).bind fun m => Timer.errand? m.timer n id

theorem errand?_eq {w : World} {n : Nat} {m : Mounted} (h : w.mounted[n]? = some m) (id : Nat) :
    w.errand? n id = Timer.errand? m.timer n id := by
  rw [errand?, h]
  rfl

theorem id_of_errand? {w : World} {n id : Nat} {j : Job} (h : w.errand? n id = some j) : j.id = id := by
  obtain ⟨m, -, hm⟩ := Option.bind_eq_some_iff.1 h
  unfold Timer.errand? at hm
  split at hm
  · obtain rfl := Option.some.inj hm
    rfl
  · cases hm

/-- The binding of a number has been unmounted: no outcome waits for it, and its timer has been
aborted. -/
structure Gone (w : World) (n : Nat) (m : Mounted) : Prop where
  there : w.mounted[n]? = some m
  terminal : m.binding.state = .terminal
  empty : m.binding.inbox = []
  aborted : Timer.IsAborted m.timer

variable {w v : World} {n : Nat} {m : Mounted}

theorem Gone.binding? (g : Gone w n m) : w.binding? n = some m.binding := by
  rw [World.binding?, g.there]
  rfl

theorem Gone.not_isMounted (g : Gone w n m) : ¬ m.binding.isMounted = true := by
  simp [Binding.isMounted, g.terminal]

/-- A binding that is no longer live is gone. -/
theorem Reached.gone (h : Reached w) {b : Binding} (there : w.binding? n = some b)
    (terminal : b.state = .terminal) : ∃ m, Gone w n m ∧ m.binding = b := by
  obtain ⟨m, hm, rfl⟩ := Option.map_eq_some_iff.1 there
  have hdead : w.isLive n = false := by simp [World.isLive, there, Binding.isMounted, terminal]
  have hsession := session?_of_mounted hm
  exact ⟨m, ⟨hm, terminal, h.inbox_eq_nil there terminal, h.isAborted hdead hsession⟩, rfl⟩

namespace Gone

/-- Looking for outcomes finds none and tells nothing. -/
theorem report (g : Gone w n m) (q : NotificationQueue) : w.report n q = (w, q) := by
  have hpoll : w.poll n = w := modify_eq_self g.there (by rw [Binding.poll_of_inbox g.empty])
  rw [World.report, g.binding?]
  simp only [hpoll, Binding.announcements, g.empty, List.filterMap_nil, List.foldl_nil]

/-- Asking for newer data starts nothing. -/
theorem refresh (g : Gone w n m) : w.refresh n = w := by
  simp only [World.refresh, g.there, if_neg g.not_isMounted]

/-- Unmounting once more changes nothing. -/
theorem unmount (g : Gone w n m) : w.unmount n = w := by
  refine modify_eq_self g.there ?_
  rw [Binding.unmount_of_terminal g.terminal g.empty, Timer.abort_of_isAborted g.aborted]

/-- The timer does nothing when it goes on, or spawns the fetch that it was about to spawn and stops. -/
theorem runTimer (g : Gone w n m) : w.runTask (.timer n) =
    match w.errand? n w.nextJob with
    | none => w
    | some j => { w with
        mounted := w.mounted.modify n Mounted.stopped
        jobs := w.jobs ++ [j]
        nextJob := w.nextJob + 1
        ready := w.ready ++ [.job j.id] } := by
  rw [errand?_eq g.there]
  simp only [runTask, g.there]
  rcases g.aborted with hstage | ⟨mode, hstage⟩
  · simp only [World.runTimer, Timer.errand?, hstage]
  · simp only [World.runTimer, Timer.errand?, hstage]
    have hmounted : (w.mounted.modify n fun k =>
        { k with timer := { m.timer with stage := dispatched w.nextJob mode true } }) =
          w.mounted.modify n Mounted.stopped := modify_congr g.there rfl
    rw [dispatch, World.modify, hmounted]
    rfl

theorem bindings (g : Gone w n m) : w.bindings[n]? = some m.binding := by
  rw [← binding?_eq, g.binding?]

/-- A change of a binding that leaves this one as it is. -/
theorem bindings_modify (g : Gone w n m) {f : Binding → Binding} (fixed : f m.binding = m.binding)
    (k : Nat) : (w.bindings.modify k f)[n]? = some m.binding := by
  rw [List.getElem?_modify, g.bindings]
  split
  · simp [fixed]
  · rfl

theorem bindings_move (g : Gone w n m) (mv : Move) : (w.move mv).bindings[n]? = some m.binding := by
  cases mv with
  | mount policy sections =>
    have hlength : n < w.bindings.length := (List.getElem?_eq_some_iff.1 g.bindings).1
    rw [move, bindings_mount, List.getElem?_append_left hlength, g.bindings]
  | refresh k =>
    rcases refresh_cases w k with ⟨heq, -⟩ | ⟨m', hm', live, heq⟩
    · rw [move, heq, g.bindings]
    · have hother : k ≠ n := by
        rintro rfl
        obtain rfl := Option.some.inj (hm'.symm.trans g.there)
        exact g.not_isMounted live
      have hbindings : (w.refresh k).bindings = w.bindings.modify k Binding.refreshed := by
        rw [heq]
        exact World.bindings_modify fun _ => rfl
      rw [move, hbindings, List.getElem?_modify_ne _ _ hother, g.bindings]
  | poll k q =>
    rw [move, report_fst, bindings_poll]
    exact g.bindings_modify (Binding.poll_of_inbox g.empty) k
  | unmount k =>
    rw [move, bindings_unmount]
    exact g.bindings_modify (Binding.unmount_of_terminal g.terminal g.empty) k
  | goOn task =>
    rcases (turn_runTask w task).ends_or with hnone | ⟨x, result, hends⟩
    · rw [move, hnone.bindings, g.bindings]
    · rw [move, hends.bindings]
      exact g.bindings_modify (f := (·.receive x.outcome))
        (Binding.receive_of_terminal g.terminal _) _
  | clock | calendar | line | serve | disturb => exact g.bindings

/-- Only the next turn of the timer does something to the timer. -/
theorem timers_move (g : Gone w n m) {mv : Move} (others : mv ≠ .goOn (.timer n)) {b : Books}
    (e : Effect w mv b) : b.timers[n]? = some m.timer := by
  have htimer := getElem?_timers g.there
  have hfixed {f : Timer → Timer} (fixed : f m.timer = m.timer) (k : Nat) :
      (w.timers.modify k f)[n]? = some m.timer := by
    rw [List.getElem?_modify, htimer]
    split
    · simp [fixed]
    · rfl
  have hother {k : Nat} (hk : Move.goOn (.timer k) ≠ .goOn (.timer n)) (f : Timer → Timer) :
      (w.timers.modify k f)[n]? = some m.timer := by
    rw [List.getElem?_modify_ne, htimer]
    rintro rfl
    exact hk rfl
  cases e with
  | rests | refreshes | begins => exact htimer
  | mounts policy sections =>
    exact (List.getElem?_append_left (List.getElem?_eq_some_iff.1 htimer).1).trans htimer
  | unmounts k => exact hfixed (Timer.abort_of_isAborted g.aborted) k
  | sleeps | setsOut | fetches => exact hother others _
  | answers | ends => exact hfixed (Timer.hear_of_isAborted g.aborted _ _) _

/-- A binding that is gone stays as it is while its timer does not go on. -/
theorem move_other (g : Gone w n m) {mv : Move} (others : mv ≠ .goOn (.timer n)) :
    Gone (w.move mv) n m := by
  have hbinding := g.bindings_move mv
  obtain ⟨m', there, htimer⟩ := exists_of_timers (g.timers_move others (effect_move w mv))
  rw [World.bindings, List.getElem?_map, there] at hbinding
  obtain rfl : m' = m := by
    obtain ⟨binding, timer⟩ := m'
    obtain rfl : binding = m.binding := Option.some.inj hbinding
    obtain rfl : timer = m.timer := htimer
    rfl
  exact ⟨there, g.terminal, g.empty, g.aborted⟩

/-- When its timer goes on, it stays as it is, or the timer has spawned what it was about to spawn and has
stopped. -/
theorem runTask_timer (g : Gone w n m) :
    w.errand? n w.nextJob = none ∧ w.runTask (.timer n) = w ∨
      ∃ j, w.errand? n w.nextJob = some j ∧ Gone (w.runTask (.timer n)) n m.stopped ∧
        w.runTask (.timer n) = { w with
          mounted := w.mounted.modify n Mounted.stopped
          jobs := w.jobs ++ [j]
          nextJob := w.nextJob + 1
          ready := w.ready ++ [.job j.id] } := by
  rw [g.runTimer]
  cases herrand : w.errand? n w.nextJob with
  | none => exact .inl ⟨rfl, rfl⟩
  | some j =>
    have there : (w.mounted.modify n Mounted.stopped)[n]? = some m.stopped := by
      rw [List.getElem?_modify_eq, g.there]
      rfl
    exact .inr ⟨j, rfl, ⟨there, g.terminal, g.empty, .inl rfl⟩, rfl⟩

end Gone

/-! ## What its fetches still do -/

/-- The fetch is among fetches, or was so when it was in line. -/
def WasAmong (jobs : List Job) (j : Job) : Prop := j ∈ jobs ∨ asSpawned j ∈ jobs

theorem WasAmong.trans {old jobs : List Job} {j : Job} (h : WasAmong jobs j)
    (hjobs : ∀ k ∈ jobs, k.binding = j.binding → WasAmong old k) : WasAmong old j := by
  rcases h with h | h
  · exact hjobs j h rfl
  · rcases hjobs _ h rfl with hspawned | hspawned
    · exact .inr hspawned
    · exact .inr hspawned

theorem WasAmong.mono {old jobs : List Job} {j : Job} (h : WasAmong old j) (more : old ⊆ jobs) :
    WasAmong jobs j :=
  h.imp (fun hj => more hj) fun hj => more hj

/-- Only the next turn of its timer puts a fetch in line for a binding that is gone. -/
theorem Gone.wasAmong (g : Gone w n m) (o : Orderly w) {mv : Move} (others : mv ≠ .goOn (.timer n))
    {b : Books} (e : Effect w mv b) {j : Job} (hj : j ∈ b.jobs) (own : j.binding = n) :
    WasAmong w.jobs j := by
  have hold {job : Job} (other : job.binding ≠ n) (h : j ∈ w.jobs ++ [job]) : WasAmong w.jobs j := by
    rcases List.mem_append.1 h with h | h
    · exact .inl h
    · rw [List.mem_singleton.1 h] at own
      exact absurd own other
  have hlength : n < w.mounted.length := (List.getElem?_eq_some_iff.1 g.there).1
  cases e with
  | rests | unmounts | sleeps | setsOut => exact .inl hj
  | mounts policy sections =>
    change j ∈ w.jobs ++ ite _ _ _ at hj
    split at hj
    · rw [List.append_nil] at hj
      exact .inl hj
    · exact hold (Nat.ne_of_gt hlength) hj
  | @refreshes k m' there live =>
    refine hold ?_ hj
    rintro rfl
    obtain rfl := Option.some.inj (there.symm.trans g.there)
    exact g.not_isMounted live
  | @fetches k t mode aborted there stage =>
    refine hold ?_ hj
    rintro rfl
    exact others rfl
  | @begins job waits fresh endsAt result course early =>
    obtain ⟨k, hk, rfl⟩ := List.mem_map.1 hj
    split at own
    · next hid =>
      obtain rfl := o.accounts.eq_of_id hk waits hid
      right
      rw [if_pos rfl]
      have hsame : asSpawned { k with stage := .running endsAt result } = asSpawned k := rfl
      rw [hsame, asSpawned_of_fresh fresh]
      exact waits
    · next hid =>
      left
      rw [if_neg hid]
      exact hk
  | answers | ends => exact .inl (List.mem_filter.1 hj).1

/-- What remains in a later world of the fetches for a binding that was gone: none are under way, have
begun or have ended but those that were under way by then, and the one that the timer was about to spawn,
once it has been spawned. -/
structure Leftovers (w v : World) (n : Nat) (late : Option Job) : Prop where
  jobs : ∀ j ∈ v.jobs, j.binding = n → WasAmong (w.jobs ++ late.toList) j
  begun : ∃ fresh, v.begun = fresh ++ w.begun ∧ v.asked = fresh.flatMap (·.requests) ++ w.asked ∧
    ∀ f ∈ fresh, f.job.binding = n → f.job ∈ w.jobs ++ late.toList ∧ f.job.stage = .spawned
  ended : ∃ fresh, v.ended = fresh ++ w.ended ∧
    v.storage.tried = fresh.filterMap (·.write? w.space) ++ w.storage.tried ∧
    ∀ x ∈ fresh, x.job.binding = n → WasAmong (w.jobs ++ late.toList) x.job

namespace Leftovers

variable {late : Option Job}

theorem refl (w : World) (n : Nat) : Leftovers w w n none where
  jobs := fun _ hj _ => .inl (List.mem_append_left _ hj)
  begun := ⟨[], rfl, rfl, List.forall_mem_nil _⟩
  ended := ⟨[], rfl, rfl, List.forall_mem_nil _⟩

/-- A move other than a turn of the timer. -/
theorem move_other (l : Leftovers w v n late) (space : v.space = w.space) (g : Gone v n m)
    (o : Orderly v) {mv : Move} (others : mv ≠ .goOn (.timer n)) :
    Leftovers w (v.move mv) n late := by
  have heffect := effect_move v mv
  constructor
  · intro j hj own
    refine (g.wasAmong o others heffect hj own).trans fun k hk hbinding => l.jobs k hk ?_
    exact hbinding.trans own
  · obtain ⟨fresh, hbegun, hasked, hown⟩ := l.begun
    have hbooks : (v.move mv).begun = (v.move mv).books.begun ∧
        (v.move mv).asked = (v.move mv).books.asked := ⟨rfl, rfl⟩
    rw [hbooks.1, hbooks.2]
    rcases heffect.begun with ⟨hsame, hnone⟩ | ⟨f, hone, hmore, hwaits, hfresh⟩
    · rw [hsame, hnone]
      exact l.begun
    · refine ⟨f :: fresh, ?_, ?_, List.forall_mem_cons.2 ⟨fun own => ⟨?_, hfresh⟩, hown⟩⟩
      · rw [hone, hbegun, List.cons_append]
      · rw [hmore, hasked, List.flatMap_cons, List.append_assoc]
      · rcases l.jobs f.job hwaits own with hmem | hmem
        · exact hmem
        · rwa [asSpawned_of_fresh hfresh] at hmem
  · obtain ⟨fresh, hended, htried, hown⟩ := l.ended
    rcases move_ends_or v mv with ⟨hsame, hstorage | ⟨slots, getFails, setFails, rfl⟩⟩ | ⟨x, result, hends⟩
    · rw [hsame, hstorage]
      exact l.ended
    · exact l.ended
    · refine ⟨x :: fresh, ?_, ?_, List.forall_mem_cons.2 ⟨l.jobs x.job hends.waits, hown⟩⟩
      · rw [hends.ended, hended, List.cons_append]
      · rw [hends.tried, htried, space, filterMap_cons_eq, List.append_assoc]

/-- The timer spawns the fetch that it was about to spawn. -/
theorem spawned (l : Leftovers w v n none) {u : World} {j : Job} (jobs : u.jobs = v.jobs ++ [j])
    (begun : u.begun = v.begun) (asked : u.asked = v.asked) (ended : u.ended = v.ended)
    (storage : u.storage = v.storage) : Leftovers w u n (some j) := by
  have hmore : w.jobs ++ (none : Option Job).toList ⊆ w.jobs ++ (some j).toList := by
    simp
  constructor
  · intro k hk own
    rw [jobs] at hk
    rcases List.mem_append.1 hk with hk | hk
    · exact (l.jobs k hk own).mono hmore
    · exact .inl (List.mem_append_right _ hk)
  · obtain ⟨fresh, hbegun, hasked, hown⟩ := l.begun
    refine ⟨fresh, begun.trans hbegun, asked.trans hasked, fun f hf own => ?_⟩
    exact ⟨hmore (hown f hf own).1, (hown f hf own).2⟩
  · obtain ⟨fresh, hended, htried, hown⟩ := l.ended
    rw [ended, storage]
    exact ⟨fresh, hended, htried, fun x hx own => (hown x hx own).mono hmore⟩

end Leftovers

/-- A binding that was gone on its way: its timer may have spawned the fetch that it was about to spawn,
and has stopped if so. -/
structure Trail (w v : World) (n : Nat) (m : Mounted) (late : Option Job) : Prop where
  gone : Gone v n (if late.isSome then m.stopped else m)
  due : ∀ j ∈ late, w.errand? n j.id = some j
  leftovers : Leftovers w v n late

namespace Trail

variable {late : Option Job}

theorem errand (t : Trail w v n m late) (there : w.mounted[n]? = some m) (id : Nat) :
    v.errand? n id = if late.isSome then none else w.errand? n id := by
  rw [errand?_eq t.gone.there, errand?_eq there]
  split
  · rfl
  · rfl

/-- One move later, the timer has spawned its fetch if this was its turn. -/
theorem move (t : Trail w v n m late) (there : w.mounted[n]? = some m) (space : v.space = w.space)
    (o : Orderly v) (mv : Move) : ∃ late, Trail w (v.move mv) n m late := by
  by_cases hturn : mv = .goOn (.timer n)
  · subst hturn
    rcases t.gone.runTask_timer with ⟨-, hsame⟩ | ⟨j, herrand, hgone, hspawned⟩
    · exact ⟨late, by rw [World.move, hsame]; exact t⟩
    · rw [t.errand there] at herrand
      cases late with
      | some k => cases herrand
      | none =>
        have hid := id_of_errand? herrand
        refine ⟨some j, hgone, ?_, t.leftovers.spawned ?_ ?_ ?_ ?_ ?_⟩
        · rintro k ⟨⟩
          rw [hid]
          exact herrand
        all_goals rw [World.move, hspawned]
  · exact ⟨late, t.gone.move_other hturn, t.due, t.leftovers.move_other space t.gone o hturn⟩

end Trail

end World

end Lookout
