import Lookout.Proofs.Cache.Attempts
import Lookout.Proofs.World.Moments
import Mathlib.Logic.Function.Basic

/-!
# A binding in company and alone

A world with many bindings shows of one of them what a world shows in which it is alone. There it has
the number zero, and its fetches have numbers of their own; the requests are those to its own paths, and
the cache is the same in one place. What its page does happens in both worlds; what other pages do is
none of the world in which it is alone.

* **`Mirrors.number`** — a fetch is given a number in both worlds.
* **`Mirrors.mount`**, **`refresh`**, **`unmount`** — what pages do.
-/

namespace Lookout

/-! ## Numbers -/

/-- A task with the numbers that it has when the binding of a number is alone, if it is one of that
binding. -/
def Task.alone? (n : Nat) (ids : Nat → Option Nat) : Task → Option Task
  | .job id => (ids id).map .job
  | .timer k => if k = n then some (.timer 0) else none

/-- A fetch with the numbers that it has when its binding is alone. -/
def Job.renamed (j : Job) (id : Nat) : Job := { j with id := id, binding := 0 }

/-- A fetch as it is when a binding is alone, if it is one for that binding. -/
def Job.alone? (ids : Nat → Option Nat) (j : Job) : Option Job := (ids j.id).map j.renamed

/-- A timer with the number that the fetch it waits for has when the binding is alone. -/
def Timer.alone (ids : Nat → Option Nat) (t : Timer) : Timer :=
  match t.stage with
  | .awaiting id mode => { t with stage := .awaiting ((ids id).getD 0) mode }
  | _ => t

/-- A binding and its timer when the binding is alone. -/
def Mounted.alone (ids : Nat → Option Nat) (m : Mounted) : Mounted :=
  { m with timer := m.timer.alone ids }

namespace World

/-- No two fetches have one number. -/
def Distinct (ids : Nat → Option Nat) : Prop := ∀ ⦃a b i⦄, ids a = some i → ids b = some i → a = b

/-- The requests of the fetches for a binding, latest first. -/
def requestsOf (w : World) (n : Nat) : List AskedRequest :=
  (w.begun.filter (·.job.binding = n)).flatMap BegunFetch.requests

/-- A world shows of the binding of a number, with its key and its paths, what another world shows in
which it is alone; `ids` are the numbers that its fetches have there. -/
structure Mirrors (n : Nat) (key : String) (paths : List String) (ids : Nat → Option Nat)
    (w u : World) : Prop where
  now : u.now = w.now
  calendar : u.calendarOffset = w.calendarOffset
  space : u.space = w.space
  servers : u.servers = w.servers
  getFails : u.storage.getFails = w.storage.getFails
  setFails : u.storage.setFails = w.storage.setFails
  slot : u.storage.slots.lookup (Cache.slotName w.space key) =
    w.storage.slots.lookup (Cache.slotName w.space key)
  asked : u.asked = w.asked.filter (·.path ∈ paths)
  requests : u.requestsOf 0 = w.requestsOf n
  jobs : u.jobs = w.jobs.filterMap (Job.alone? ids)
  ready : u.ready = w.ready.filterMap (Task.alone? n ids)
  mounted : u.mounted = (w.mounted[n]?.map (Mounted.alone ids)).toList
  distinct : Distinct ids
  given {a i : Nat} : ids a = some i → a < w.nextJob ∧ i < u.nextJob
  owned : ∀ j ∈ w.jobs, (ids j.id).isSome = true ↔ j.binding = n
  numbered : ∀ j ∈ w.jobs, j.id < w.nextJob
  queued : ∀ id, .job id ∈ w.ready → id < w.nextJob
  awaited : ∀ m, w.mounted[n]? = some m → ∀ id, Timer.awaits id m.timer = true → (ids id).isSome = true

variable {n : Nat} {key : String} {paths : List String} {ids : Nat → Option Nat} {w u : World}

theorem Distinct.eq_iff (d : Distinct ids) {a b i k : Nat} (ha : ids a = some k) (hb : ids b = some i) :
    k = i ↔ a = b := by
  constructor
  · rintro rfl
    exact d ha hb
  · rintro rfl
    exact Option.some.inj (ha.symm.trans hb)

/-! ## Timers -/

theorem Timer.aim?_alone (now : Nat) (t : Timer) : Timer.aim? now (t.alone ids) = Timer.aim? now t := by
  obtain ⟨policy, sections, wait, stage⟩ := t
  cases stage <;> rfl

/-- A timer waits for a fetch if it does so alone. -/
theorem Timer.awaits_alone (d : Distinct ids) {id i : Nat} (hid : ids id = some i) {t : Timer}
    (awaited : ∀ id, Timer.awaits id t = true → (ids id).isSome = true) :
    Timer.awaits i (t.alone ids) = Timer.awaits id t := by
  obtain ⟨policy, sections, wait, stage⟩ := t
  cases stage with
  | fresh | sleeping | dispatching | answered | stopped => rfl
  | awaiting id' mode =>
    obtain ⟨i', hi'⟩ := Option.isSome_iff_exists.1 (awaited id' (decide_eq_true rfl))
    have halone : Timer.awaits i (Timer.alone ids ⟨policy, sections, wait, .awaiting id' mode⟩) =
        decide (i' = i) := by
      simp only [Timer.awaits, Timer.alone, hi', Option.getD_some]
    rw [halone]
    exact decide_eq_decide.2 (d.eq_iff hi' hid)

/-- A timer that waits for a fetch hears of its end if it does so alone. -/
theorem Timer.hear_alone (d : Distinct ids) {id i : Nat} (hid : ids id = some i) {t : Timer}
    (awaited : ∀ id, Timer.awaits id t = true → (ids id).isSome = true) (succeeded : Bool) :
    Timer.hear i succeeded (t.alone ids) = (Timer.hear id succeeded t).alone ids := by
  have hawaits := Timer.awaits_alone d hid awaited
  cases hwaits : Timer.awaits id t with
  | false =>
    rw [hwaits] at hawaits
    rw [Timer.hear_of_not_awaits hwaits, Timer.hear_of_not_awaits hawaits]
  | true =>
    rw [hwaits] at hawaits
    obtain ⟨policy, sections, wait, stage⟩ := t
    cases stage with
    | fresh | sleeping | dispatching | answered | stopped => cases hwaits
    | awaiting id' mode =>
      have hsame : id' = id := of_decide_eq_true hwaits
      have halone : (ids id').getD 0 = i := of_decide_eq_true hawaits
      simp only [Timer.hear, Timer.alone, hsame, if_true]
      rw [← hsame, if_pos halone]

/-- A timer that has been aborted does not wait for a fetch. -/
theorem Timer.awaits_abort (t : Timer) (id : Nat) : Timer.awaits id (Timer.abort t) = false := by
  obtain ⟨policy, sections, wait, stage⟩ := t
  cases stage <;> rfl

/-- A timer that has been told of an end does not wait for a fetch, or it did so before. -/
theorem Timer.awaits_hear {id id' : Nat} {succeeded : Bool} {t : Timer}
    (h : Timer.awaits id' (Timer.hear id succeeded t) = true) : Timer.awaits id' t = true := by
  obtain ⟨policy, sections, wait, stage⟩ := t
  cases stage with
  | fresh | sleeping | dispatching | answered | stopped => exact h
  | awaiting id'' mode =>
    by_cases hid : id'' = id
    · simp [Timer.hear, Timer.awaits, hid] at h
    · simpa [Timer.hear, Timer.awaits, hid] using h

/-! ## What changes in one world or in both -/

namespace Mirrors

variable (h : Mirrors n key paths ids w u)
include h

/-- The cache holds the same for the key. -/
theorem read_eq : u.read key = w.read key := by
  rw [read, read, h.space]
  exact Cache.read_congr h.getFails h.slot

theorem wall_eq : u.wall = w.wall := by rw [wall, wall, h.now, h.calendar]

theorem getElem?_mounted : u.mounted[0]? = w.mounted[n]?.map (Mounted.alone ids) := by
  rw [h.mounted]
  cases w.mounted[n]? <;> rfl

/-- A change of the binding or its timer. -/
theorem modify {f g : Mounted → Mounted}
    (alike : ∀ m, w.mounted[n]? = some m → (f m).alone ids = g (m.alone ids))
    (waits : ∀ m, w.mounted[n]? = some m → ∀ id, Timer.awaits id (f m).timer = true →
      (ids id).isSome = true) :
    Mirrors n key paths ids (w.modify n f) (u.modify 0 g) := by
  refine { h with mounted := ?_, awaited := ?_ }
  · show u.mounted.modify 0 g = ((w.mounted.modify n f)[n]?.map (Mounted.alone ids)).toList
    rw [h.mounted, List.getElem?_modify_eq]
    cases hm : w.mounted[n]? with
    | none => rfl
    | some m =>
      show [g (m.alone ids)] = [(f m).alone ids]
      rw [alike m hm]
  · intro m hm
    obtain ⟨m₀, hm₀, rfl⟩ : ∃ m₀, w.mounted[n]? = some m₀ ∧ f m₀ = m := by
      have hmodify : (w.mounted.modify n f)[n]? = some m := hm
      rw [List.getElem?_modify_eq] at hmodify
      exact Option.map_eq_some_iff.1 hmodify
    exact waits m₀ hm₀

/-- A change of another binding or its timer. -/
theorem modify_other {k : Nat} (other : k ≠ n) (f : Mounted → Mounted) :
    Mirrors n key paths ids (w.modify k f) u := by
  have hsame : (w.modify k f).mounted[n]? = w.mounted[n]? := List.getElem?_modify_ne f _ other
  exact { h with mounted := hsame ▸ h.mounted, awaited := hsame ▸ h.awaited }

/-- A change of the binding that leaves its timer. -/
theorem modify_binding (f : Binding → Binding) :
    Mirrors n key paths ids (w.modify n fun m => { m with binding := f m.binding })
      (u.modify 0 fun m => { m with binding := f m.binding }) :=
  h.modify (fun _ _ => rfl) h.awaited

/-! ### The line -/

/-- The task at the head of the line leaves it. -/
theorem leave {task : Task} {rest : List Task} (line : w.ready = task :: rest) {task' : Task}
    (own : task.alone? n ids = some task') :
    ∃ rest', u.ready = task' :: rest' ∧
      Mirrors n key paths ids { w with ready := rest } { u with ready := rest' } := by
  refine ⟨rest.filterMap (Task.alone? n ids), ?_, { h with ready := rfl, queued := ?_ }⟩
  · rw [h.ready, line, List.filterMap_cons_some own]
  · exact fun id hid => h.queued id (line ▸ List.mem_cons_of_mem _ hid)

theorem leave_other {task : Task} {rest : List Task} (line : w.ready = task :: rest)
    (other : task.alone? n ids = none) : Mirrors n key paths ids { w with ready := rest } u := by
  refine { h with ready := ?_, queued := ?_ }
  · rw [h.ready, line, List.filterMap_cons_none other]
  · exact fun id hid => h.queued id (line ▸ List.mem_cons_of_mem _ hid)

/-- The timer of the binding joins the line. -/
theorem join_timer : Mirrors n key paths ids { w with ready := w.ready ++ [.timer n] }
    { u with ready := u.ready ++ [.timer 0] } := by
  refine { h with ready := ?_, queued := ?_ }
  · show u.ready ++ [Task.timer 0] = (w.ready ++ [Task.timer n]).filterMap (Task.alone? n ids)
    rw [h.ready, List.filterMap_append]
    simp [Task.alone?]
  · intro id hid
    exact h.queued id ((List.mem_append.1 hid).resolve_right (by simp))

theorem join_timer_other {k : Nat} (other : k ≠ n) :
    Mirrors n key paths ids { w with ready := w.ready ++ [.timer k] } u := by
  refine { h with ready := ?_, queued := ?_ }
  · show u.ready = (w.ready ++ [Task.timer k]).filterMap (Task.alone? n ids)
    rw [h.ready, List.filterMap_append]
    simp [Task.alone?, other]
  · intro id hid
    exact h.queued id ((List.mem_append.1 hid).resolve_right (by simp))

/-- The timer of the binding goes before the line. -/
theorem hurry : Mirrors n key paths ids (w.hurry n) (u.hurry 0) := by
  refine { h with ready := ?_, queued := ?_ }
  · show .timer 0 :: u.ready = (.timer n :: w.ready).filterMap (Task.alone? n ids)
    have hown : Task.alone? n ids (.timer n) = some (.timer 0) := if_pos rfl
    rw [h.ready, List.filterMap_cons_some hown]
  · exact fun id hid => h.queued id ((List.mem_cons.1 hid).resolve_left nofun)

theorem hurry_other {k : Nat} (other : k ≠ n) : Mirrors n key paths ids (w.hurry k) u := by
  refine { h with ready := ?_, queued := ?_ }
  · show u.ready = (.timer k :: w.ready).filterMap (Task.alone? n ids)
    have hnone : Task.alone? n ids (.timer k) = none := if_neg other
    rw [h.ready, List.filterMap_cons_none hnone]
  · exact fun id hid => h.queued id ((List.mem_cons.1 hid).resolve_left nofun)

/-! ### Fetches that are spawned -/

/-- A number is given to a fetch for the binding in both worlds. -/
theorem number : Mirrors n key paths (Function.update ids w.nextJob (some u.nextJob))
    { w with nextJob := w.nextJob + 1 } { u with nextJob := u.nextJob + 1 } := by
  have hold {id : Nat} (hid : id < w.nextJob) :
      Function.update ids w.nextJob (some u.nextJob) id = ids id :=
    Function.update_of_ne (Nat.ne_of_lt hid) _ _
  have hnew {a i : Nat} (ha : Function.update ids w.nextJob (some u.nextJob) a = some i) :
      a = w.nextJob ∧ i = u.nextJob ∨ ids a = some i := by
    by_cases hlast : a = w.nextJob
    · rw [hlast, Function.update_self] at ha
      exact .inl ⟨hlast, (Option.some.inj ha).symm⟩
    · rw [Function.update_of_ne hlast] at ha
      exact .inr ha
  refine { h with
    jobs := ?_, ready := ?_, mounted := ?_, distinct := ?_, given := ?_, owned := ?_
    numbered := ?_, queued := ?_, awaited := ?_ }
  · refine h.jobs.trans (List.filterMap_congr fun j hj => ?_)
    simp only [Job.alone?, hold (h.numbered j hj)]
  · refine h.ready.trans (List.filterMap_congr fun task htask => ?_)
    cases task with
    | job id => simp only [Task.alone?, hold (h.queued id htask)]
    | timer k => rfl
  · show u.mounted = _
    rw [h.mounted]
    refine congrArg Option.toList (Option.map_congr fun m hm => ?_)
    obtain ⟨binding, policy, sections, wait, stage⟩ := m
    cases stage with
    | fresh | sleeping | dispatching | answered | stopped => rfl
    | awaiting id mode =>
      obtain ⟨i, hi⟩ := Option.isSome_iff_exists.1 (h.awaited _ hm id (decide_eq_true rfl))
      simp only [Mounted.alone, Timer.alone, hold (h.given hi).1]
  · intro a b i ha hb
    rcases hnew ha with ⟨rfl, rfl⟩ | ha <;> rcases hnew hb with ⟨rfl, hi⟩ | hb
    · rfl
    · exact absurd (h.given hb).2 (Nat.lt_irrefl _)
    · exact absurd (h.given ha).2 (hi ▸ Nat.lt_irrefl _)
    · exact h.distinct ha hb
  · intro a i ha
    rcases hnew ha with ⟨rfl, rfl⟩ | ha
    · exact ⟨Nat.lt_succ_self _, Nat.lt_succ_self _⟩
    · exact ⟨Nat.lt_succ_of_lt (h.given ha).1, Nat.lt_succ_of_lt (h.given ha).2⟩
  · intro j hj
    rw [hold (h.numbered j hj)]
    exact h.owned j hj
  · exact fun j hj => Nat.lt_succ_of_lt (h.numbered j hj)
  · exact fun id hid => Nat.lt_succ_of_lt (h.queued id hid)
  · intro m hm id hid
    have hsome := h.awaited m hm id hid
    obtain ⟨i, hi⟩ := Option.isSome_iff_exists.1 hsome
    rw [hold (h.given hi).1]
    exact hsome

/-- A fetch for the binding that has its number joins the line. -/
theorem join {job : Job} (own : job.binding = n) {i : Nat} (hid : ids job.id = some i) :
    Mirrors n key paths ids { w with jobs := w.jobs ++ [job], ready := w.ready ++ [.job job.id] }
      { u with jobs := u.jobs ++ [job.renamed i], ready := u.ready ++ [.job i] } := by
  have hlt := (h.given hid).1
  refine { h with jobs := ?_, ready := ?_, owned := ?_, numbered := ?_, queued := ?_ }
  · show u.jobs ++ [job.renamed i] = (w.jobs ++ [job]).filterMap (Job.alone? ids)
    rw [h.jobs, List.filterMap_append]
    simp [Job.alone?, hid]
  · show u.ready ++ [Task.job i] = (w.ready ++ [Task.job job.id]).filterMap (Task.alone? n ids)
    rw [h.ready, List.filterMap_append]
    simp [Task.alone?, hid]
  · refine List.forall_mem_append.2 ⟨h.owned, List.forall_mem_singleton.2 ?_⟩
    simp [hid, own]
  · exact List.forall_mem_append.2 ⟨h.numbered, List.forall_mem_singleton.2 hlt⟩
  · intro id hmem
    rcases List.mem_append.1 hmem with hold | hnew
    · exact h.queued id hold
    · obtain rfl := Task.job.inj (List.mem_singleton.1 hnew)
      exact hlt

/-- A fetch for the binding is spawned. -/
theorem spawn (mode : Fetch.Mode) (policy : Fetch.Policy) (sections : List Section) :
    ∃ ids', Mirrors n key paths ids' (w.spawn n mode policy sections)
      (u.spawn 0 mode policy sections) := by
  let job : Job := ⟨w.nextJob, n, mode, policy, sections, .spawned⟩
  have hgiven : Function.update ids w.nextJob (some u.nextJob) job.id = some u.nextJob :=
    Function.update_self _ _ _
  exact ⟨_, h.number.join (rfl : job.binding = n) hgiven⟩

/-- A fetch for another binding is spawned. -/
theorem spawn_other {k : Nat} (other : k ≠ n) (mode : Fetch.Mode) (policy : Fetch.Policy)
    (sections : List Section) : Mirrors n key paths ids (w.spawn k mode policy sections) u := by
  have hnone : ids w.nextJob = none := by
    cases hid : ids w.nextJob with
    | none => rfl
    | some i => exact absurd (h.given hid).1 (Nat.lt_irrefl _)
  refine { h with jobs := ?_, ready := ?_, given := ?_, owned := ?_, numbered := ?_, queued := ?_ }
  · show u.jobs = (w.jobs ++ [_]).filterMap (Job.alone? ids)
    rw [h.jobs, List.filterMap_append]
    simp [Job.alone?, hnone]
  · show u.ready = (w.ready ++ [Task.job w.nextJob]).filterMap (Task.alone? n ids)
    rw [h.ready, List.filterMap_append]
    simp [Task.alone?, hnone]
  · exact fun ha => ⟨Nat.lt_succ_of_lt (h.given ha).1, (h.given ha).2⟩
  · refine List.forall_mem_append.2 ⟨h.owned, List.forall_mem_singleton.2 ?_⟩
    simp [hnone, other]
  · exact List.forall_mem_append.2 ⟨fun j hj => Nat.lt_succ_of_lt (h.numbered j hj),
      List.forall_mem_singleton.2 (Nat.lt_succ_self _)⟩
  · intro id hmem
    rcases List.mem_append.1 hmem with hold | hnew
    · exact Nat.lt_succ_of_lt (h.queued id hold)
    · obtain rfl := Task.job.inj (List.mem_singleton.1 hnew)
      exact Nat.lt_succ_self _

end Mirrors

/-! ## What pages do -/

/-- The binding of a new page, with its timer. -/
def newcomer (w : World) (policy : Fetch.Policy) (sections : List Section) : Mounted where
  binding := .mounted policy.key (w.read policy.key)
  timer := ⟨policy, sections, policy.interval, .fresh (w.read policy.key).isSome⟩

/-- A page takes its place; its first fetch joins the line if the cache holds nothing, and then its
timer. -/
theorem mount_eq_newcomer (w : World) (policy : Fetch.Policy) (sections : List Section) :
    w.mount policy sections =
      let v : World := { w with mounted := w.mounted ++ [w.newcomer policy sections] }
      let v := if (w.read policy.key).isSome then v
        else v.spawn w.mounted.length .foreground policy sections
      { v with ready := v.ready ++ [.timer w.mounted.length] } := rfl

theorem Timer.policy_alone (t : Timer) : (t.alone ids).policy = t.policy := by
  unfold Timer.alone
  split <;> rfl

theorem Timer.sections_alone (t : Timer) : (t.alone ids).sections = t.sections := by
  unfold Timer.alone
  split <;> rfl

namespace Mirrors

variable (h : Mirrors n key paths ids w u)
include h

theorem mounted_eq_nil (later : w.mounted.length ≤ n) : u.mounted = [] := by
  rw [h.mounted, List.getElem?_eq_none later]
  rfl

theorem binding?_eq : u.binding? 0 = w.binding? n := by
  rw [binding?, binding?, h.getElem?_mounted, Option.map_map]
  rfl

/-- The page of the binding is mounted. -/
theorem mount (own : w.mounted.length = n) {policy : Fetch.Policy} (ofKey : policy.key = key)
    (sections : List Section) :
    ∃ ids', Mirrors n key paths ids' (w.mount policy sections) (u.mount policy sections) := by
  have hempty : u.mounted = [] := h.mounted_eq_nil (Nat.le_of_eq own)
  have hread : u.read policy.key = w.read policy.key := by
    rw [ofKey]
    exact h.read_eq
  have hnew : u.newcomer policy sections = w.newcomer policy sections := by
    rw [newcomer, newcomer, hread]
  have hplace : (w.mounted ++ [w.newcomer policy sections])[n]? = some (w.newcomer policy sections) := by
    rw [← own]
    exact List.getElem?_concat_length
  have hseated : Mirrors n key paths ids { w with mounted := w.mounted ++ [w.newcomer policy sections] }
      { u with mounted := u.mounted ++ [u.newcomer policy sections] } := by
    refine { h with mounted := ?_, awaited := ?_ }
    · show u.mounted ++ [_] = ((w.mounted ++ [_])[n]?.map (Mounted.alone ids)).toList
      rw [hempty, hplace, hnew]
      rfl
    · intro m hm id hwaits
      obtain rfl := Option.some.inj (hplace.symm.trans hm)
      cases hwaits
  have hfirst : u.mounted.length = 0 := List.length_eq_zero_iff.2 hempty
  rw [mount_eq_newcomer, mount_eq_newcomer, hread, hfirst, own]
  dsimp only
  split
  · exact ⟨ids, hseated.join_timer⟩
  · obtain ⟨ids', hspawned⟩ := hseated.spawn .foreground policy sections
    exact ⟨ids', hspawned.join_timer⟩

/-- Another page is mounted. -/
theorem mount_other (other : w.mounted.length ≠ n) (policy : Fetch.Policy) (sections : List Section) :
    Mirrors n key paths ids (w.mount policy sections) u := by
  have hplace : (w.mounted ++ [w.newcomer policy sections])[n]? = w.mounted[n]? := by
    rcases Nat.lt_or_ge n w.mounted.length with hlt | hge
    · exact List.getElem?_append_left hlt
    · rw [List.getElem?_eq_none hge, List.getElem?_eq_none]
      rw [List.length_append, List.length_singleton]
      omega
  have hseated : Mirrors n key paths ids
      { w with mounted := w.mounted ++ [w.newcomer policy sections] } u :=
    { h with
      mounted := h.mounted.trans (congrArg (fun m => (Option.map _ m).toList) hplace.symm)
      awaited := fun m hm => h.awaited m (hplace.symm.trans hm) }
  rw [mount_eq_newcomer]
  dsimp only
  split
  · exact hseated.join_timer_other other
  · exact (hseated.spawn_other other _ _ _).join_timer_other other

/-- The user asks for newer data of the binding. -/
theorem refresh : ∃ ids', Mirrors n key paths ids' (w.refresh n) (u.refresh 0) := by
  unfold World.refresh
  rw [h.getElem?_mounted]
  cases hm : w.mounted[n]? with
  | none => exact ⟨ids, h⟩
  | some m =>
    show ∃ ids', Mirrors n key paths ids' (if m.binding.isMounted then _ else w)
      (if m.binding.isMounted then _ else u)
    split
    · rw [Mounted.alone, Timer.policy_alone, Timer.sections_alone]
      exact (h.modify_binding Binding.refreshed).spawn _ _ _
    · exact ⟨ids, h⟩

theorem refresh_other {k : Nat} (other : k ≠ n) : Mirrors n key paths ids (w.refresh k) u := by
  rcases refresh_cases w k with ⟨heq, -⟩ | ⟨m, -, -, heq⟩
  · rw [heq]
    exact h
  · rw [heq]
    exact (h.modify_other other _).spawn_other other _ _ _

/-- The page of the binding goes away. -/
theorem unmount : Mirrors n key paths ids (w.unmount n) (u.unmount 0) := by
  refine h.modify (fun m _ => ?_) fun m _ id hwaits => ?_
  · obtain ⟨binding, policy, sections, wait, stage⟩ := m
    cases stage <;> rfl
  · cases (Timer.awaits_abort m.timer id).symm.trans hwaits

end Mirrors

end World

end Lookout
