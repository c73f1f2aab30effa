import Lookout.Proofs.World.Company
import Lookout.Proofs.World.Settling

/-!
# Pages do not interfere

Bindings over one cache, with different keys and no path in common, do as they do alone: what there is to
be seen of each after everything that happens, its requests with their times, and what the user is told.

* **`Sees.settles`**, **`Sees.advances`** — a moment, and a movement of the clock.
* **`report_snd`** — what the user is told.
* **`sights_eq_alone`** — what is to be seen of a binding in company is what is to be seen of it alone.
-/

namespace Lookout

/-- Two bindings are kept under different keys and ask no path both. -/
def Purpose.IsApart (p q : Purpose) : Prop :=
  p.key ≠ q.key ∧ ∀ s ∈ p.sections, ∀ t ∈ q.sections, s.path ≠ t.path

instance (p q : Purpose) : Decidable (p.IsApart q) := inferInstanceAs (Decidable (_ ∧ _))

namespace World

variable {n : Nat} {key : String} {paths : List String} {space : String} {ps : List Purpose}
  {w u v : World}

/-! ## Two worlds -/

/-- A world whose bindings are for these purposes shows of one of them what another world shows in which
it is alone; and the others are apart from it. -/
structure Sees (n : Nat) (key : String) (paths : List String) (space : String) (ps : List Purpose)
    (w u : World) : Prop where
  owned : Owned w
  space_eq : w.space = space
  purposes_eq : w.purposes = ps
  apart : Apart n key paths space ps
  mirrors : ∃ ids, Mirrors n key paths ids w u

namespace Sees

/-- What goes on at a moment. -/
theorem settles (h : Sees n key paths space ps w u) (settles : Settles w v) :
    ∃ u', Settles u u' ∧ Sees n key paths space ps v u' := by
  induction settles generalizing u with
  | @rests w empty =>
    obtain ⟨ids, hmirrors⟩ := h.mirrors
    have hready : u.ready = [] := by rw [hmirrors.ready, empty, List.filterMap_nil]
    exact ⟨u, .rests hready, h⟩
  | @turns w v task rest line later ih =>
    obtain ⟨ids, hmirrors⟩ := h.mirrors
    have hturn : Turn { w with ready := rest } ({ w with ready := rest }.runTask task) :=
      turn_runTask _ task
    have hspace : ({ w with ready := rest }.runTask task).space = w.space := hturn.outside.1
    have hpurposes : ({ w with ready := rest }.runTask task).purposes = w.purposes := hturn.purposes
    have hafter {u' : World} {ids' : Nat → Option Nat}
        (hmirrors' : Mirrors n key paths ids' ({ w with ready := rest }.runTask task) u') :
        Sees n key paths space ps ({ w with ready := rest }.runTask task) u' :=
      ⟨(h.owned.move (.line rest)).move (.goOn task), hspace.trans h.space_eq,
        hpurposes.trans h.purposes_eq, h.apart, ids', hmirrors'⟩
    have hapart : Apart n key paths w.space w.purposes := by
      rw [h.space_eq, h.purposes_eq]
      exact h.apart
    obtain ⟨ids', hother | ⟨task', rest', hline, hown⟩⟩ := hmirrors.turn h.owned hapart line
    · exact ih (hafter hother)
    · obtain ⟨u', hsettles, hsees⟩ := ih (hafter hown)
      exact ⟨u', .turns hline hsettles, hsees⟩

/-- The clock comes to a time. -/
theorem wake (h : Sees n key paths space ps w u) (time : Nat) :
    Sees n key paths space ps (w.wake time) (u.wake time) := by
  obtain ⟨ids, hmirrors⟩ := h.mirrors
  have howned : Owned (w.wake time) :=
    (h.owned.move (.clock time)).move (.line (w.wake time).ready)
  exact ⟨howned, h.space_eq, h.purposes_eq, h.apart, ids, hmirrors.wake time⟩

end Sees

/-- A clock that moves on from a stop at which nothing goes on could as well not have stopped. -/
theorem Advances.of_stop {target time : Nat} (settles : Settles u w)
    (h : Advances target { w with now := time } v) : Advances target u v := by
  have hempty := settles.ready
  have hstill {v : World} (hsettles : Settles { w with now := time } v) : v = { w with now := time } :=
    hsettles.unique (.rests hempty)
  cases h with
  | arrives settles' later =>
    obtain rfl := hstill settles'
    exact .arrives (v := w) settles later
  | stops settles' next soon rest =>
    obtain rfl := hstill settles'
    exact .stops (v := w) settles next soon rest

/-- The clock moves. In company it may stop where nothing goes on for the binding. -/
theorem Sees.advances {target : Nat} (h : Sees n key paths space ps w u)
    (advances : Advances target w v) : ∃ u', Advances target u u' ∧ Sees n key paths space ps v u' := by
  induction advances generalizing u with
  | @arrives w v settles later =>
    obtain ⟨u', hsettles, hsees⟩ := h.settles settles
    obtain ⟨ids, hmirrors⟩ := hsees.mirrors
    refine ⟨{ u' with now := target },
      .arrives hsettles fun due hdue => later due (hmirrors.mem_dueTimes hdue), ?_⟩
    exact ⟨hsees.owned.move (.clock target), hsees.space_eq, hsees.purposes_eq, hsees.apart, ids,
      { hmirrors with now := rfl }⟩
  | @stops w v x time settles next soon rest ih =>
    obtain ⟨u', hsettles, hsees⟩ := h.settles settles
    obtain ⟨ids, hmirrors⟩ := hsees.mirrors
    obtain ⟨u'', hrest, hends⟩ := ih (hsees.wake time)
    have hleast : ∀ due ∈ u'.dueTimes, time ≤ due := fun due hdue =>
      (List.min?_eq_some_iff.1 next).2 due (hmirrors.mem_dueTimes hdue)
    refine ⟨u'', ?_, hends⟩
    by_cases hdue : time ∈ u'.dueTimes
    · exact .stops hsettles (List.min?_eq_some_iff.2 ⟨hdue, hleast⟩) soon hrest
    · have hlater : ∀ due ∈ u'.dueTimes, time < due := fun due hmem =>
        Nat.lt_of_le_of_ne (hleast due hmem) fun heq => hdue (heq ▸ hmem)
      rw [wake_of_not_due hlater] at hrest
      exact .of_stop hsettles hrest

/-! ## The schedule of one binding -/

/-- What the binding is for that is mounted. -/
def Deed.purpose? (d : Deed) : Option Purpose := d.move?.bind (·.purpose?)

/-- What the bindings are for that are mounted, in order. -/
def mounts (ds : List Deed) : List Purpose := ds.filterMap Deed.purpose?

/-- What happens to the binding of a number when it is alone: its page does what it does, with the number
zero, and other pages do nothing; the clock, the calendar, the servers and the storage change as they do
in company. So many bindings have been mounted before. -/
def Deed.alone? (n count : Nat) : Deed → Option Deed
  | .act (.mount policy sections) _ =>
    if count = n then some (.act (.mount policy sections) rfl) else none
  | .act (.refresh k) _ => if k = n then some (.act (.refresh 0) rfl) else none
  | .act (.poll k queue) _ => if k = n then some (.act (.poll 0 queue) rfl) else none
  | .act (.unmount k) _ => if k = n then some (.act (.unmount 0) rfl) else none
  | d => some d

/-- The same schedule for the binding of a number alone. -/
def alone (n : Nat) : Nat → List Deed → List Deed
  | _, [] => []
  | count, d :: ds => (d.alone? n count).toList ++ alone n (count + d.purpose?.toList.length) ds

/-- What the user is told when a page looks at what has arrived for the binding of a number. -/
def told (w : World) (n : Nat) : Deed → List String
  | .act (.poll k _) _ => if k = n then (w.binding? n).elim [] (·.announcements) else []
  | _ => []

/-- What is to be seen of a binding after something has happened: the time by the clock and the calendar;
the state, the snapshot, the last failure and how many fetches the user waits for; the requests so far
with their times; and what the user has just been told. -/
structure Sight where
  time : Nat
  calendar : Int
  binding : Option Binding
  requests : List AskedRequest
  messages : List String

/-- What is to be seen of the binding of a number after each thing that happens, but for what other pages
do. -/
def sights (n : Nat) : World → List Deed → List World → List Sight
  | w, d :: ds, v :: vs =>
    let sight : Sight := ⟨v.now, v.wall, v.binding? n, v.requestsOf n, w.told n d⟩
    (if (d.alone? n w.mounted.length).isSome then [sight] else []) ++ sights n v ds vs
  | _, _, _ => []

/-- What the user is told is what a page that looks at what has arrived puts in its queue. -/
theorem report_snd (w : World) (n : Nat) (q : NotificationQueue) : (w.report n q).2 =
    (w.told n (.act (.poll n q) rfl)).foldl (fun q m => q.push m .error w.now w.wall) q := by
  simp only [told, if_true]
  cases hb : w.binding? n <;> simp [report, hb]

theorem mounts_cons (d : Deed) (ds : List Deed) : mounts (d :: ds) = d.purpose?.toList ++ mounts ds := by
  cases hd : d.purpose? <;> simp [mounts, hd]

theorem mounts_eq (ds : List Deed) : mounts ds = (acts ds).filterMap (·.purpose?) :=
  List.filterMap_filterMap.symm

/-- A mount happens alone if it is that of the binding. -/
theorem mounts_alone? (d : Deed) (n count : Nat) :
    mounts (d.alone? n count).toList = if count = n then d.purpose?.toList else [] := by
  cases d with
  | advance millis =>
    show [] = ite _ [] []
    rw [ite_self]
  | act m outside =>
    cases m with
    | mount policy sections =>
      simp only [Deed.alone?]
      split <;> rfl
    | refresh k | poll k | unmount k =>
      rw [show Deed.purpose? (Deed.act _ outside) = none from rfl, Option.toList_none, ite_self]
      simp only [Deed.alone?]
      split <;> rfl
    | goOn | clock | line => cases outside
    | calendar | serve | disturb =>
      show [] = ite _ [] []
      rw [ite_self]

/-- Only the binding of the number is mounted in its schedule alone. -/
theorem mounts_alone (n count : Nat) (ds : List Deed) : mounts (alone n count ds) =
    if count ≤ n then (mounts ds)[n - count]?.toList else [] := by
  induction ds generalizing count with
  | nil => exact (ite_self []).symm
  | cons d ds ih =>
    have happend : mounts (alone n count (d :: ds)) = mounts (d.alone? n count).toList ++
        mounts (alone n (count + d.purpose?.toList.length) ds) := List.filterMap_append
    rw [happend, mounts_alone?, ih, mounts_cons]
    cases hd : d.purpose? with
    | none => simp
    | some p =>
      rcases Nat.lt_trichotomy count n with hlt | heq | hgt
      · have hnext : n - count = n - (count + 1) + 1 := by omega
        simp [Nat.ne_of_lt hlt, Nat.le_of_lt hlt, Nat.succ_le_of_lt hlt, hnext]
      · simp [heq]
      · have hle : ¬ count ≤ n := Nat.not_le_of_lt hgt
        have hle' : ¬ count + 1 ≤ n := fun h => hle (Nat.le_of_succ_le h)
        simp [(Nat.ne_of_lt hgt).symm, hle, hle']

theorem Apart.before {qs : List Purpose} (a : Apart n key paths space (ps ++ qs)) :
    Apart n key paths space ps := by
  have hfront {k : Nat} {p : Purpose} (hp : ps[k]? = some p) : (ps ++ qs)[k]? = some p := by
    rw [List.getElem?_append_left (List.getElem?_eq_some_iff.1 hp).1, hp]
  exact ⟨fun hp => a.own (hfront hp), fun hp hk => a.others (hfront hp) hk⟩

namespace Sees

/-- What a page does, or the world around the pages. -/
theorem act (h : Sees n key paths space ps w u) {m : Move} (outside : m.byItself = false)
    (apart : Apart n key paths space (ps ++ m.purpose?.toList)) :
    (∃ m' outside', (Deed.act m outside).alone? n w.mounted.length = some (.act m' outside') ∧
        (Deed.act m' outside').alone? 0 u.mounted.length = some (.act m' outside') ∧
        u.told 0 (.act m' outside') = w.told n (.act m outside) ∧
        Sees n key paths space (ps ++ m.purpose?.toList) (w.move m) (u.move m')) ∨
      (Deed.act m outside).alone? n w.mounted.length = none ∧
        Sees n key paths space (ps ++ m.purpose?.toList) (w.move m) u := by
  obtain ⟨ids, hmirrors⟩ := h.mirrors
  have hafter {u' : World} (hmirrors' : ∃ ids', Mirrors n key paths ids' (w.move m) u') :
      Sees n key paths space (ps ++ m.purpose?.toList) (w.move m) u' :=
    ⟨h.owned.move m, (move_space w m).trans h.space_eq, h.purposes_eq ▸ purposes_move w m, apart,
      hmirrors'⟩
  cases m with
  | goOn | clock | line => cases outside
  | mount policy sections =>
    by_cases own : w.mounted.length = n
    · have hkey : policy.key = key := by
        refine (apart.own (p := ⟨policy.key, policy, sections⟩) ?_).1
        rw [← own, ← length_purposes, h.purposes_eq]
        exact List.getElem?_concat_length
      have hempty := hmirrors.mounted_eq_nil (Nat.le_of_eq own)
      refine .inl ⟨.mount policy sections, rfl, if_pos own, if_pos ?_, rfl, ?_⟩
      · rw [hempty, List.length_nil]
      · exact hafter (hmirrors.mount own hkey sections)
    · exact .inr ⟨if_neg own, hafter ⟨ids, hmirrors.mount_other own policy sections⟩⟩
  | refresh k =>
    by_cases own : k = n
    · subst own
      exact .inl ⟨.refresh 0, rfl, if_pos rfl, rfl, rfl, hafter hmirrors.refresh⟩
    · exact .inr ⟨if_neg own, hafter ⟨ids, hmirrors.refresh_other own⟩⟩
  | poll k queue =>
    by_cases own : k = n
    · subst own
      refine .inl ⟨.poll 0 queue, rfl, if_pos rfl, rfl, ?_, hafter ⟨ids, ?_⟩⟩
      · simp only [told, if_true, hmirrors.binding?_eq]
      · rw [move, move, report_fst, report_fst]
        exact hmirrors.modify_binding Binding.poll
    · refine .inr ⟨if_neg own, hafter ⟨ids, ?_⟩⟩
      rw [move, report_fst]
      exact hmirrors.modify_other own _
  | unmount k =>
    by_cases own : k = n
    · subst own
      exact .inl ⟨.unmount 0, rfl, if_pos rfl, rfl, rfl, hafter ⟨ids, hmirrors.unmount⟩⟩
    · exact .inr ⟨if_neg own, hafter ⟨ids, hmirrors.modify_other own _⟩⟩
  | calendar time =>
    refine .inl ⟨.calendar time, rfl, rfl, rfl, rfl, hafter ⟨ids, { hmirrors with calendar := ?_ }⟩⟩
    show time - u.now = time - w.now
    rw [hmirrors.now]
  | serve servers =>
    exact .inl ⟨.serve servers, rfl, rfl, rfl, rfl, hafter ⟨ids, { hmirrors with servers := rfl }⟩⟩
  | disturb slots getFails setFails =>
    exact .inl ⟨.disturb slots getFails setFails, rfl, rfl, rfl, rfl,
      hafter ⟨ids, { hmirrors with getFails := rfl, setFails := rfl, slot := rfl }⟩⟩

/-- What is to be seen of the binding. -/
theorem sight_eq (h : Sees n key paths space ps v u) (messages : List String) :
    (⟨u.now, u.wall, u.binding? 0, u.requestsOf 0, messages⟩ : Sight) =
      ⟨v.now, v.wall, v.binding? n, v.requestsOf n, messages⟩ := by
  obtain ⟨ids, hmirrors⟩ := h.mirrors
  rw [hmirrors.now, hmirrors.wall_eq, hmirrors.binding?_eq, hmirrors.requests]

/-- Whatever happens, there is to be seen of the binding what is to be seen of it alone. -/
theorem runs (h : Sees n key paths space ps w u) {ds : List Deed} {vs : List World}
    (apart : Apart n key paths space (ps ++ mounts ds)) (runs : Runs w ds vs) :
    ∃ us, Runs u (alone n ps.length ds) us ∧
      sights 0 u (alone n ps.length ds) us = sights n w ds vs := by
  induction runs generalizing u ps with
  | done w => exact ⟨[], .done u, rfl⟩
  | @acts w m outside ds vs rest ih =>
    have hcount : w.mounted.length = ps.length := by rw [← h.purposes_eq, length_purposes]
    rw [mounts_cons, ← List.append_assoc] at apart
    rcases h.act outside apart.before with ⟨m', outside', hown, hkept, htold, hsees⟩ | ⟨hother, hsees⟩
    · obtain ⟨us, hruns, hsights⟩ := ih hsees apart
      have halone : alone n ps.length (.act m outside :: ds) =
          .act m' outside' :: alone n (ps ++ m.purpose?.toList).length ds := by
        rw [alone, ← hcount, hown, List.length_append, hcount]
        rfl
      refine ⟨u.move m' :: us, halone ▸ .acts outside' hruns, ?_⟩
      rw [halone, sights, sights, hkept, hown, hsights, htold, hsees.sight_eq]
    · obtain ⟨us, hruns, hsights⟩ := ih hsees apart
      have halone : alone n ps.length (.act m outside :: ds) =
          alone n (ps ++ m.purpose?.toList).length ds := by
        rw [alone, ← hcount, hother, List.length_append, hcount]
        rfl
      refine ⟨us, halone ▸ hruns, ?_⟩
      rw [halone, hsights, sights, hother]
      rfl
  | @advances w v millis clock ds vs rest ih =>
    obtain ⟨ids, hmirrors⟩ := h.mirrors
    obtain ⟨u', hclock, hsees⟩ := h.advances clock
    obtain ⟨us, hruns, hsights⟩ := ih hsees apart
    rw [← hmirrors.now] at hclock
    refine ⟨u' :: us, .advances hclock hruns, ?_⟩
    show [_] ++ sights 0 u' (alone n ps.length ds) us = [_] ++ sights n v ds vs
    rw [hsights]
    exact congrArg (· :: sights n v ds vs) (hsees.sight_eq [])

end Sees

/-! ## Pages do not interfere -/

theorem key_of_mem_mounts {ds : List Deed} {p : Purpose} (hp : p ∈ mounts ds) :
    p.key = p.policy.key := by
  obtain ⟨d, -, hd⟩ := List.mem_filterMap.1 hp
  obtain ⟨m, -, hm⟩ := Option.bind_eq_some_iff.1 hd
  cases m with
  | mount policy sections =>
    obtain rfl := Option.some.inj hm
    rfl
  | refresh | poll | unmount | goOn | clock | calendar | line | serve | disturb => cases hm

theorem apart_of_pairwise {ds : List Deed} (there : n < (mounts ds).length)
    (apart : (mounts ds).Pairwise Purpose.IsApart)
    (slots : ∀ p ∈ mounts ds, ∀ q ∈ mounts ds,
      Cache.slotName space p.key = Cache.slotName space q.key → p.key = q.key) :
    Apart n (mounts ds)[n].policy.key ((mounts ds)[n].sections.map (·.path)) space (mounts ds) := by
  rw [List.pairwise_iff_getElem] at apart
  constructor
  · intro p hp
    obtain ⟨-, rfl⟩ := List.getElem?_eq_some_iff.1 hp
    exact ⟨rfl, fun s hs => List.mem_map_of_mem hs⟩
  · intro k p hp hk
    obtain ⟨hlt, rfl⟩ := List.getElem?_eq_some_iff.1 hp
    have hpair : Purpose.IsApart (mounts ds)[k] (mounts ds)[n] := by
      rcases Nat.lt_or_gt_of_ne hk with hbefore | hafter
      · exact apart k n hlt there hbefore
      · obtain ⟨hkeys, hpaths⟩ := apart n k there hlt hafter
        exact ⟨hkeys.symm, fun s hs t ht heq => hpaths t ht s hs heq.symm⟩
    have hmem := List.getElem_mem hlt
    have hmem' := List.getElem_mem there
    refine ⟨fun hslot => hpair.1 (slots _ hmem _ hmem' ?_), fun s hs hmap => ?_⟩
    · rw [key_of_mem_mounts hmem, key_of_mem_mounts hmem']
      exact hslot
    · obtain ⟨t, ht, hpath⟩ := List.mem_map.1 hmap
      exact hpair.2 s hs t ht hpath.symm

theorem sees_start (calendar : Int) (storage : Cache.Storage) (servers : Servers)
    (apart : Apart n key paths space []) : Sees n key paths space []
      (start calendar space storage servers) (start calendar space storage servers) where
  owned := owned_start calendar space storage servers
  space_eq := rfl
  purposes_eq := rfl
  apart := apart
  mirrors := ⟨fun _ => none, {
    now := rfl
    calendar := rfl
    space := rfl
    servers := rfl
    getFails := rfl
    setFails := rfl
    slot := rfl
    asked := rfl
    requests := rfl
    jobs := rfl
    ready := rfl
    mounted := rfl
    distinct := nofun
    given := nofun
    owned := List.forall_mem_nil _
    numbered := List.forall_mem_nil _
    queued := fun _ hmem => absurd hmem List.not_mem_nil
    awaited := fun _ hm => nomatch (List.getElem?_nil.symm.trans hm : none = some _) }⟩

/-- Pages do not interfere. Bindings are mounted over one cache, with different keys and no path in
common, and whatever pages and the world around them do, in every order and at all times: there is to be
seen of each binding what is to be seen in the same schedule when it alone is mounted. If the world comes
to an end of the schedule in company, it does so alone, and in one way; as long as no interval is empty,
it does, and comes to the worlds that are computed. It is assumed that no two of the keys have one digest
by accident. -/
theorem sights_eq_alone (calendar : Int) (space : String) (storage : Cache.Storage)
    (servers : Servers) {ds : List Deed} {n : Nat} (there : n < (mounts ds).length)
    (apart : (mounts ds).Pairwise Purpose.IsApart)
    (slots : ∀ p ∈ mounts ds, ∀ q ∈ mounts ds,
      Cache.slotName space p.key = Cache.slotName space q.key → p.key = q.key) :
    let w := start calendar space storage servers
    mounts (alone n 0 ds) = [(mounts ds)[n]] ∧
      (∀ vs, Runs w ds vs →
        ∃ us, Runs w (alone n 0 ds) us ∧ (∀ us', Runs w (alone n 0 ds) us' → us' = us) ∧
          sights 0 w (alone n 0 ds) us = sights n w ds vs) ∧
      ((∀ p ∈ mounts ds, 0 < p.policy.interval.nanos) →
        Runs w ds (w.course ds) ∧ Runs w (alone n 0 ds) (w.course (alone n 0 ds)) ∧
          sights 0 w (alone n 0 ds) (w.course (alone n 0 ds)) = sights n w ds (w.course ds)) := by
  intro w
  have hapart := apart_of_pairwise there apart slots
  have hmounts : mounts (alone n 0 ds) = [(mounts ds)[n]] := by
    rw [mounts_alone, if_pos (Nat.zero_le n), Nat.sub_zero, List.getElem?_eq_getElem there]
    rfl
  have hstart : Apart n _ _ space [] := hapart.before
  have hsame (vs : List World) (hruns : Runs w ds vs) : ∃ us, Runs w (alone n 0 ds) us ∧
      sights 0 w (alone n 0 ds) us = sights n w ds vs :=
    (sees_start calendar storage servers hstart).runs hapart hruns
  have hcomputed {es : List Deed} (pos : ∀ p ∈ mounts es, 0 < p.policy.interval.nanos) :
      Runs w es (w.course es) := by
    refine runs_course (driven_start calendar space storage servers) fun m hm q hq => pos q ?_
    rw [mounts_eq]
    exact List.mem_filterMap.2 ⟨m, hm, hq⟩
  refine ⟨hmounts, fun vs hruns => ?_, fun pos => ?_⟩
  · obtain ⟨us, halone, hsights⟩ := hsame vs hruns
    exact ⟨us, halone, fun us' halone' => halone'.unique halone, hsights⟩
  · have hruns := hcomputed pos
    have halone : Runs w (alone n 0 ds) (w.course (alone n 0 ds)) := by
      refine hcomputed ?_
      rw [hmounts]
      exact List.forall_mem_singleton.2 (pos _ (List.getElem_mem there))
    obtain ⟨us, halone', hsights⟩ := hsame _ hruns
    exact ⟨hruns, halone, halone.unique halone' ▸ hsights⟩

/-- Servers that answer every request after three milliseconds; the second one for the chats fails. -/
def chatsFailOnce : Servers := fun path count =>
  if path = "chats" ∧ count = 1 then ⟨3, .error (.http "chats" 503)⟩ else ⟨3, .ok .null⟩

/-- The deals and the chats are mounted and both refreshed, and the deals go away before the answer. -/
def dealsAndChats : List Deed := [
  .act (.mount (.every "deals" (.ofSecs 30)) [.get "deals" "deals"]) rfl,
  .act (.mount (.every "chats" (.ofSecs 20)) [.get "chats" "chats"]) rfl,
  .advance 10,
  .act (.poll 1 (.new (.ofSecs 1))) rfl,
  .act (.refresh 0) rfl,
  .act (.refresh 1) rfl,
  .act (.unmount 0) rfl,
  .advance 10,
  .act (.poll 1 (.new (.ofSecs 1))) rfl,
  .advance 20000]

/-- The chats do beside the deals what they do alone: the user is told once, when the
second request has failed, and the background fetch comes twenty seconds after the start. -/
theorem chats_beside_deals :
    let w := start 0 "" .empty chatsFailOnce
    let seen := sights 1 w dealsAndChats (w.course dealsAndChats)
    1 < (mounts dealsAndChats).length ∧ (mounts dealsAndChats).Pairwise Purpose.IsApart ∧
      (∀ p ∈ mounts dealsAndChats, ∀ q ∈ mounts dealsAndChats,
        Cache.slotName "" p.key = Cache.slotName "" q.key → p.key = q.key) ∧
      sights 0 w (alone 1 0 dealsAndChats) (w.course (alone 1 0 dealsAndChats)) = seen ∧
      seen.map (·.messages) =
        [[], [], [], [], [], ["Failed to load chats: chats returned HTTP 503"], []] ∧
      seen.getLast?.map (fun sight => sight.requests.map fun r => (r.time, r.path)) =
        some [(20000, "chats"), (10, "chats"), (0, "chats")] := by
  intro w seen
  have there : 1 < (mounts dealsAndChats).length := by decide
  have apart : (mounts dealsAndChats).Pairwise Purpose.IsApart := by decide +kernel
  have slots : ∀ p ∈ mounts dealsAndChats, ∀ q ∈ mounts dealsAndChats,
      Cache.slotName "" p.key = Cache.slotName "" q.key → p.key = q.key := by
    have hplaces : Cache.slotName "" "deals" ≠ Cache.slotName "" "chats" := by decide +kernel
    have hkey : ∀ p ∈ mounts dealsAndChats, p.key = "deals" ∨ p.key = "chats" := by decide +kernel
    intro p hp q hq hslot
    rcases hkey p hp with hp | hp <;> rcases hkey q hq with hq | hq <;> rw [hp, hq] at hslot ⊢
    · exact absurd hslot hplaces
    · exact absurd hslot.symm hplaces
  have pos : ∀ p ∈ mounts dealsAndChats, 0 < p.policy.interval.nanos := by decide +kernel
  obtain ⟨-, -, hcomputed⟩ := sights_eq_alone 0 "" .empty chatsFailOnce there apart slots
  refine ⟨there, apart, slots, (hcomputed pos).2.2, ?_, ?_⟩
  · decide +kernel
  · decide +kernel

end World

end Lookout
