import Lookout.Proofs.Binding.History
import Lookout.Proofs.World.Course

/-!
# The histories of a run

The history of each binding is recorded along a run, without looking at what the binding makes of it,
and the binding follows it: what it shows, counts and tells is a function of its history. The outcomes
that it has applied are those of its own fetches, in the order in which they ended.

* **`follows_run`** — every binding of a run follows its history.
* **`binding_is_its_history`** — what a binding shows, counts and tells is a function of its history.
-/

namespace Lookout

/-! ## The history of a run -/

/-- The texts that are added to a queue of notifications. -/
def added (q q' : NotificationQueue) : List (NotificationKind × String) :=
  (q'.items.drop q.items.length).map fun x => (x.kind, x.message)

namespace World

/-- The outcomes that wait for a binding. -/
def inboxOf (w : World) (n : Nat) : List Fetch.Outcome := ((w.binding? n).map (·.inbox)).getD []

/-- What a move adds to the history of a binding. -/
def record (n : Nat) (w : World) (h : Option History) : Move → Option History
  | .mount policy _ =>
    if n = w.mounted.length then some ⟨policy.key, w.read policy.key, 0, [], false, []⟩ else h
  | .refresh k => if k = n then
      h.map fun h => if h.gone then h else { h with refreshes := h.refreshes + 1 }
    else h
  | .poll k q => if k = n then
      h.map fun h =>
        { h with
          applied := h.applied ++ w.inboxOf n
          told := h.told ++ added q (w.report n q).2 }
    else h
  | .unmount k => if k = n then h.map fun h => { h with gone := true } else h
  | _ => h

/-- The history of a binding over a run. -/
def history (n : Nat) (w : World) : List Move → Option History → Option History
  | [], h => h
  | m :: moves, h => history n (w.move m) moves (record n w h m)

/-- The outcomes of the fetches for a binding that have ended, in order. -/
def outcomesOf (w : World) (n : Nat) : List Fetch.Outcome :=
  ((w.ended.filter (·.job.binding = n)).map (·.outcome)).reverse

/-- A binding follows its history: it shows it, the user has been told of it, every fetch that the user
waits for is under way or its outcome waits, and the outcomes applied are those of the fetches that have
ended, in order, up to those that wait. -/
structure Follows (w : World) (n : Nat) (b : Binding) (h : History) : Prop where
  shows : Shows b h
  told : h.told = h.messages
  emptied : h.gone = true → b.inbox = []
  waiting : h.gone = false → w.awaited n + foregroundCount b.inbox = b.foregroundInFlight
  arrived : h.gone = false → h.applied ++ b.inbox = w.outcomesOf n
  applied : h.applied <+: w.outcomesOf n

namespace Follows

variable {w v : World} {n : Nat} {b : Binding} {h : History}

/-- Following a history is about the fetches that are waited for and those that have ended. -/
theorem congr (f : Follows w n b h) (awaited : v.awaited n = w.awaited n)
    (outcomes : v.outcomesOf n = w.outcomesOf n) : Follows v n b h := by
  constructor
  · exact f.shows
  · exact f.told
  · exact f.emptied
  · rw [awaited]
    exact f.waiting
  · rw [outcomes]
    exact f.arrived
  · rw [outcomes]
    exact f.applied

theorem refreshed (f : Follows w n b h) (live : h.gone = false)
    (awaited : v.awaited n = w.awaited n + 1) (outcomes : v.outcomesOf n = w.outcomesOf n) :
    Follows v n b.refreshed { h with refreshes := h.refreshes + 1 } := by
  constructor
  · exact f.shows.refreshed
  · exact f.told
  · exact f.emptied
  · intro _
    have hwaiting := f.waiting live
    simp only [awaited, Binding.refreshed]
    omega
  · rw [outcomes]
    exact f.arrived
  · rw [outcomes]
    exact f.applied

theorem unmount (f : Follows w n b h) (outcomes : v.outcomesOf n = w.outcomesOf n) :
    Follows v n b.unmount { h with gone := true } := by
  constructor
  · exact f.shows.unmount
  · exact f.told
  · exact fun _ => rfl
  · intro hlive
    cases hlive
  · intro hlive
    cases hlive
  · rw [outcomes]
    exact f.applied

/-- An outcome that arrives waits for the page, unless the page is gone. -/
theorem receive (f : Follows w n b h) (o : Fetch.Outcome)
    (awaited : w.awaited n = v.awaited n + foregroundCount [o])
    (outcomes : v.outcomesOf n = w.outcomesOf n ++ [o]) : Follows v n (b.receive o) h := by
  have hparts : h.applied <+: v.outcomesOf n := by
    rw [outcomes]
    exact f.applied.trans (List.prefix_append _ _)
  cases hgone : h.gone with
  | true =>
    have hb : b.receive o = b := by simp [Binding.receive, f.shows.isMounted, hgone]
    rw [hb]
    exact ⟨f.shows, f.told, f.emptied, by simp [hgone], by simp [hgone], hparts⟩
  | false =>
    have hb : b.receive o = { b with inbox := b.inbox ++ [o] } := by
      simp [Binding.receive, f.shows.isMounted, hgone]
    rw [hb]
    refine ⟨f.shows.inbox _, f.told, by simp [hgone], ?_, ?_, hparts⟩
    · intro _
      have hwaiting := f.waiting hgone
      show v.awaited n + foregroundCount (b.inbox ++ [o]) = b.foregroundInFlight
      rw [foregroundCount_append]
      omega
    · intro _
      rw [outcomes, ← f.arrived hgone, List.append_assoc]

/-- The outcomes that wait are all counted. -/
theorem counted (f : Follows w n b h) : foregroundCount b.inbox ≤ b.foregroundInFlight := by
  cases hgone : h.gone with
  | true =>
    rw [f.emptied hgone]
    exact Nat.zero_le _
  | false =>
    have hwaiting := f.waiting hgone
    omega

theorem shows_poll (f : Follows w n b h) : Shows b.poll (h.extend b.inbox) := by
  cases hgone : h.gone with
  | true =>
    have hempty := f.emptied hgone
    have hpoll : b.poll = { b with inbox := [] } := by
      rw [Binding.poll, hempty]
      rfl
    have hextend : h.extend [] = h := by rw [History.extend, List.append_nil]
    rw [hpoll, hempty, hextend]
    exact f.shows.inbox []
  | false => exact f.shows.poll hgone f.counted

/-- Looking for outcomes applies those that wait, and tells the user about the failures among them. -/
theorem poll (f : Follows w n b h) (awaited : v.awaited n = w.awaited n)
    (outcomes : v.outcomesOf n = w.outcomesOf n) {told : List (NotificationKind × String)}
    (htold : told = b.announcements.map (.error, ·)) :
    Follows v n b.poll { h.extend b.inbox with told := h.told ++ told } := by
  have hinbox : b.poll.inbox = [] := Binding.inbox_foldl _ _
  have hshows := f.shows_poll
  constructor
  · exact ⟨hshows.key, hshows.snapshot, hshows.error, hshows.state, hshows.count⟩
  · have hadded : told = b.inbox.filterMap (History.message? h.key) := by
      rw [htold, Binding.announcements, List.map_filterMap]
      exact List.filterMap_congr fun o _ => f.shows.message?_eq o
    show h.told ++ told = (h.extend b.inbox).messages
    rw [f.told, hadded, History.messages, History.messages, History.extend, List.filterMap_append]
  · exact fun _ => hinbox
  · intro live
    have hwaiting := f.waiting live
    have hcount : b.poll.foregroundInFlight = b.foregroundInFlight - foregroundCount b.inbox :=
      Binding.foregroundInFlight_foldl _ _
    rw [awaited, hinbox, hcount]
    simp only [foregroundCount, List.countP_nil] at hwaiting ⊢
    omega
  · intro live
    show h.applied ++ b.inbox ++ b.poll.inbox = v.outcomesOf n
    rw [hinbox, outcomes, List.append_nil]
    exact f.arrived live
  · show h.applied ++ b.inbox <+: v.outcomesOf n
    cases hgone : h.gone with
    | true =>
      rw [f.emptied hgone, List.append_nil, outcomes]
      exact f.applied
    | false =>
      have hall : h.applied ++ b.inbox = v.outcomesOf n := (f.arrived hgone).trans outcomes.symm
      exact hall ▸ List.prefix_refl _

end Follows

/-! ## Every binding follows its history -/

theorem items_push_all (now : Nat) (wall : Int) (texts : List String) (q : NotificationQueue) :
    (texts.foldl (fun q text => q.push text .error now wall) q).items.map (fun x => (x.kind, x.message)) =
      q.items.map (fun x => (x.kind, x.message)) ++ texts.map (NotificationKind.error, ·) := by
  induction texts generalizing q with
  | nil => simp
  | cons text texts ih =>
    rw [List.foldl_cons, ih, NotificationQueue.push, List.map_append, List.append_assoc]
    rfl

/-- What is told about a binding is what is added to the queue. -/
theorem added_report (w : World) (n : Nat) (q : NotificationQueue) {b : Binding}
    (h : w.binding? n = some b) :
    added q (w.report n q).2 = b.announcements.map (NotificationKind.error, ·) := by
  have hitems := items_push_all w.now w.wall b.announcements q
  have hreport : (w.report n q).2 =
      b.announcements.foldl (fun q text => q.push text .error w.now w.wall) q := by
    rw [report, h]
  rw [added, hreport, List.map_drop, hitems, List.drop_left' (by rw [List.length_map])]

theorem outcomesOf_congr {w v : World} (h : v.ended = w.ended) (n : Nat) :
    v.outcomesOf n = w.outcomesOf n := by
  rw [outcomesOf, h, outcomesOf]

theorem Ends.outcomesOf {w v : World} {x : EndedFetch} {result : Except Fetch.Failure Json}
    (e : Ends w v x result) (n : Nat) : v.outcomesOf n =
      w.outcomesOf n ++ if x.job.binding = n then [x.outcome] else [] := by
  rw [World.outcomesOf, e.ended, World.outcomesOf]
  by_cases hn : x.job.binding = n
  · simp [hn]
  · simp [hn]

/-- A binding that has just been mounted has no fetches but its first, and none has ended. -/
theorem follows_mount {w : World} (a : Accounts w) (policy : Fetch.Policy) (sections : List Section) :
    Follows (w.mount policy sections) w.mounted.length (.mounted policy.key (w.read policy.key))
      ⟨policy.key, w.read policy.key, 0, [], false, []⟩ := by
  obtain ⟨mounted, nextJob, ready, heq⟩ := mount_eq w policy sections
  have hnone : w.awaited w.mounted.length = 0 := by
    rw [awaited, List.countP_eq_zero]
    intro j hj
    have hlt := a.jobs_lt j hj
    simp only [decide_eq_true_eq]
    omega
  have houtcomes : (w.mount policy sections).outcomesOf w.mounted.length = [] := by
    rw [outcomesOf_congr (congrArg ended heq), outcomesOf, List.filter_eq_nil_iff.2]
    · rfl
    · intro x hx
      have hlt := a.ended_lt x hx
      simp only [decide_eq_true_eq]
      omega
  constructor
  · exact Shows.mounted _ _
  · rfl
  · intro hgone
    cases hgone
  · intro _
    have hawaited : (w.mount policy sections).awaited w.mounted.length =
        w.awaited w.mounted.length + if (w.read policy.key).isSome then 0 else 1 := by
      rw [awaited, heq, List.countP_append]
      split <;> simp [awaited, *]
    rw [hawaited, hnone]
    cases w.read policy.key <;> rfl
  · intro _
    rw [houtcomes]
    rfl
  · exact List.nil_prefix

/-- A binding of a number and its history: both are there, and the one follows the other, or neither. -/
def Recorded (w : World) (n : Nat) : Option History → Prop := Option.Rel (Follows w n) (w.binding? n)

theorem Recorded.congr {w v : World} {n : Nat} {h : Option History} (r : Recorded w n h)
    (binding : v.binding? n = w.binding? n) (awaited : v.awaited n = w.awaited n)
    (outcomes : v.outcomesOf n = w.outcomesOf n) : Recorded v n h := by
  unfold Recorded at r ⊢
  rw [binding]
  generalize w.binding? n = b? at r ⊢
  cases r with
  | none => exact .none
  | some f => exact .some (f.congr awaited outcomes)

/-- Changing the binding of a number and its history together. -/
theorem Recorded.modify {w v : World} {k : Nat} {g : Binding → Binding} {g' : History → History}
    {n : Nat} {h : Option History} (r : Recorded w n h)
    (bindings : v.bindings = w.bindings.modify k g)
    (self : k = n → ∀ b h, w.binding? n = some b → Follows w n b h → Follows v n (g b) (g' h))
    (awaited : k ≠ n → v.awaited n = w.awaited n)
    (outcomes : k ≠ n → v.outcomesOf n = w.outcomesOf n) :
    Recorded v n (if k = n then h.map g' else h) := by
  by_cases hk : k = n
  · rw [if_pos hk]
    have hbinding : v.binding? n = (w.binding? n).map g := by
      rw [binding?_eq, bindings, hk, List.getElem?_modify_eq, binding?_eq]
      rfl
    unfold Recorded at r ⊢
    rw [hbinding]
    generalize hb : w.binding? n = b? at r
    cases r with
    | none => exact .none
    | some f => exact .some (self hk _ _ hb f)
  · rw [if_neg hk]
    have hbinding : v.binding? n = w.binding? n := by
      rw [binding?_eq, bindings, List.getElem?_modify_ne _ _ hk, binding?_eq]
    exact r.congr hbinding (awaited hk) (outcomes hk)

theorem Recorded.mount {w : World} (a : Accounts w) {n : Nat} {h : Option History}
    (r : Recorded w n h) (policy : Fetch.Policy) (sections : List Section) :
    Recorded (w.mount policy sections) n (record n w h (.mount policy sections)) := by
  by_cases hn : n = w.mounted.length
  · subst hn
    have hrecord : record w.mounted.length w h (.mount policy sections) =
        some ⟨policy.key, w.read policy.key, 0, [], false, []⟩ := if_pos rfl
    rw [hrecord, Recorded, binding?_mount, if_pos rfl]
    exact .some (follows_mount a policy sections)
  · have hrecord : record n w h (.mount policy sections) = h := if_neg hn
    rw [hrecord]
    obtain ⟨mounted, nextJob, ready, heq⟩ := mount_eq w policy sections
    refine r.congr ?_ ?_ ?_
    · rw [binding?_mount, if_neg hn]
    · rw [awaited, heq, List.countP_append]
      split
      · simp [awaited]
      · simp [awaited, Ne.symm hn]
    · exact outcomesOf_congr ((congrArg ended heq).trans rfl) n

theorem Recorded.refresh {w : World} {n : Nat} {h : Option History} (r : Recorded w n h) (k : Nat) :
    Recorded (w.refresh k) n (record n w h (.refresh k)) := by
  rcases refresh_cases w k with ⟨heq, hgone⟩ | ⟨m, hm, hmounted, heq⟩
  · -- The page is gone or was never there: nothing happens, and nothing is recorded.
    have hrecord : record n w h (.refresh k) = h := by
      simp only [record]
      split
      · next hk =>
        subst hk
        unfold Recorded at r
        generalize hb : w.binding? k = b? at r
        cases r with
        | none => rfl
        | @some b h f =>
          have hmounted := f.shows.isMounted
          rw [hgone b hb] at hmounted
          have hh : h.gone = true := by simpa using hmounted.symm
          simp [hh]
      · rfl
    rw [heq, hrecord]
    exact r
  · rw [heq]
    refine r.modify (bindings_modify (g := Binding.refreshed) fun _ => rfl) ?_ ?_ ?_
    · rintro rfl b h hb f
      have hbm : b = m.binding := by
        rw [binding?, hm] at hb
        exact (Option.some.inj hb).symm
      have hlive : h.gone = false := by
        have hmounted' := f.shows.isMounted
        rw [hbm, hmounted] at hmounted'
        simpa using hmounted'.symm
      rw [if_neg (by simp [hlive])]
      refine f.refreshed hlive ?_ rfl
      exact (awaited_spawn _ _ _ _ _ _).trans (by simp [awaited, World.modify])
    · intro hk
      exact (awaited_spawn _ _ _ _ _ _).trans (by simp [awaited, World.modify, hk])
    · exact fun _ => rfl

theorem Recorded.poll {w : World} {n : Nat} {h : Option History} (r : Recorded w n h) (k : Nat)
    (q : NotificationQueue) : Recorded (w.report k q).1 n (record n w h (.poll k q)) := by
  rw [report_fst]
  refine r.modify (bindings_poll w k) ?_ (fun _ => rfl) (fun _ => rfl)
  rintro rfl b h hb f
  have hinbox : w.inboxOf k = b.inbox := by rw [inboxOf, hb]; rfl
  rw [hinbox]
  exact Follows.poll (v := w.poll k) f rfl rfl (added_report w k q hb)

theorem Recorded.ends {w v : World} (a : Accounts w) {n : Nat} {h : Option History}
    (r : Recorded w n h) {x : EndedFetch} {result : Except Fetch.Failure Json}
    (e : Ends w v x result) : Recorded v n h := by
  have hcount := e.awaited a n
  have hmode : x.outcome.mode = x.job.mode := by rw [e.outcome, outcomeOf_mode]
  have hmodify : Recorded v n (if x.job.binding = n then h.map id else h) := by
    refine r.modify e.bindings ?_ ?_ ?_
    · intro hn b h _ f
      refine f.receive x.outcome ?_ ?_
      · simpa [hn, foregroundCount, Fetch.Outcome.isForeground, hmode, List.countP_cons] using hcount
      · rw [e.outcomesOf, if_pos hn]
    · intro hn
      rw [hcount, if_neg (fun hand => hn hand.1), Nat.add_zero]
    · intro hn
      rw [e.outcomesOf, if_neg hn, List.append_nil]
  simpa using hmodify

theorem Recorded.move {w : World} (a : Accounts w) {n : Nat} {h : Option History}
    (r : Recorded w n h) (m : Move) : Recorded (w.move m) n (record n w h m) := by
  cases m with
  | mount policy sections => exact r.mount a policy sections
  | refresh k => exact r.refresh k
  | poll k q => exact r.poll k q
  | unmount k =>
    refine r.modify (bindings_unmount w k) ?_ (fun _ => rfl) (fun _ => rfl)
    exact fun _ _ _ _ f => f.unmount rfl
  | goOn task =>
    rcases (turn_runTask w task).ends_or with hnone | ⟨x, result, hends⟩
    · refine r.congr ?_ (hnone.awaited n) (outcomesOf_congr hnone.ended n)
      rw [binding?_eq, binding?_eq]
      exact congrArg (·[n]?) hnone.bindings
    · exact r.ends a hends
  | clock | calendar | line | serve | disturb => exact r.congr rfl rfl rfl

/-- Every binding of a run follows its history. -/
theorem follows_run {w : World} (a : Accounts w) {n : Nat} {h : Option History} (r : Recorded w n h)
    (moves : List Move) : Recorded (w.run moves) n (history n w moves h) := by
  induction moves generalizing w h with
  | nil => exact r
  | cons m moves ih => exact ih (a.move m) (r.move a m)

theorem recorded_start (calendar : Int) (space : String) (storage : Cache.Storage)
    (servers : Servers) (n : Nat) : Recorded (start calendar space storage servers) n none := .none

theorem history_of_run (calendar : Int) (space : String) (storage : Cache.Storage) (servers : Servers)
    (moves : List Move) {n : Nat} {b : Binding}
    (hb : ((start calendar space storage servers).run moves).binding? n = some b) :
    ∃ h, history n (start calendar space storage servers) moves none = some h ∧
      Follows ((start calendar space storage servers).run moves) n b h := by
  have hrecorded := follows_run (accounts_start calendar space storage servers)
    (recorded_start calendar space storage servers n) moves
  rw [Recorded, hb] at hrecorded
  generalize history n (start calendar space storage servers) moves none = h? at hrecorded ⊢
  cases hrecorded with
  | some f => exact ⟨_, rfl, f⟩

/-- What a binding shows, counts and tells is a function of its history, whatever happens in the world
and in whatever order fetches end: the snapshot is that of the last success, or else the entry read at
first; the failure is that of the last outcome; the count is that of all fetches that the user has
waited for less those applied, and never has to stop at zero; the page is loading exactly if the count
is positive and the page is there; and the user has been told of each failure that is not in the
background, in the order in which the outcomes arrived. -/
theorem binding_is_its_history (calendar : Int) (space : String) (storage : Cache.Storage)
    (servers : Servers) (moves : List Move) (n : Nat) (b : Binding)
    (hb : ((start calendar space storage servers).run moves).binding? n = some b) :
    ∃ h, history n (start calendar space storage servers) moves none = some h ∧
      b.snapshot = h.snapshot ∧ b.error = h.error ∧ b.state = h.state ∧
      b.foregroundInFlight = h.asked - foregroundCount h.applied ∧
      foregroundCount h.applied ≤ h.asked ∧
      (∀ done o rest, b.inbox = done ++ o :: rest → o.isForeground = true →
        0 < (done.foldl Binding.apply b).foregroundInFlight) ∧
      (b.isLoading = true ↔ 0 < h.asked - foregroundCount h.applied ∧ b.state ≠ .terminal) ∧
      h.told = h.messages ∧
      h.applied <+: ((start calendar space storage servers).run moves).outcomesOf n ∧
      (b.state ≠ .terminal →
        h.applied ++ b.inbox = ((start calendar space storage servers).run moves).outcomesOf n) := by
  obtain ⟨h, hhistory, f⟩ := history_of_run calendar space storage servers moves hb
  have hcount := f.shows.count
  have hterminal := History.state_eq_terminal_iff h
  rw [← f.shows.state] at hterminal
  refine ⟨h, hhistory, f.shows.snapshot, f.shows.error, f.shows.state, by omega, by omega, ?_, ?_,
    f.told, f.applied, ?_⟩
  · intro done o rest hinbox hforeground
    have hcounted := f.counted
    have hone : foregroundCount b.inbox =
        foregroundCount done + (foregroundCount rest + 1) := by
      simp [foregroundCount, hinbox, hforeground]
    rw [Binding.foregroundInFlight_foldl]
    omega
  · have hloading : b.isLoading = true ↔ b.state ≠ .terminal ∧ 0 < b.foregroundInFlight := by
      simp [Binding.isLoading, Binding.isMounted]
    rw [hloading, and_comm]
    refine and_congr_left fun _ => ?_
    omega
  · intro hlive
    have hgone : h.gone = false := by
      rw [Ne, hterminal] at hlive
      simpa using hlive
    exact f.arrived hgone

/-- A page without data gets its data; the user asks again, and that fails. The data stays beside the
failure, of which the user is told, and nobody waits any more. -/
theorem refreshed_history :
    let servers : Servers := fun _ asked => ⟨0, if asked = 0 then .ok .null else .error (.http "a" 503)⟩
    let w := start 0 "" .empty servers
    let moves : List Move := [.mount (.every "servers" (.ofSecs 30)) [.get "a" "a"], .goOn (.job 0),
      .poll 0 (.new (.ofSecs 5)), .refresh 0, .goOn (.job 1), .poll 0 (.new (.ofSecs 5))]
    ∃ b h, (w.run moves).binding? 0 = some b ∧ history 0 w moves none = some h ∧ h.applied.length = 2 ∧
      b.isLoading = false ∧ h.state = .loaded ∧ h.snapshot.isSome ∧ h.error = some (.http "a" 503) ∧
      h.messages = [(.error, "Failed to load servers: a returned HTTP 503")] := by
  intro servers w moves
  have hbinding : ((w.run moves).binding? 0).map (fun b => (b.isLoading, b.state, b.snapshot.isSome, b.error)) =
      some (false, .loaded, true, some (.http "a" 503)) := by decide +kernel
  have hhistory : (history 0 w moves none).map (fun h => (h.applied.length, h.told)) =
      some (2, [(.error, "Failed to load servers: a returned HTTP 503")]) := by decide +kernel
  obtain ⟨b, hb, hshown⟩ := Option.map_eq_some_iff.1 hbinding
  obtain ⟨h, hh, hsnapshot, herror, hstate, -, -, -, -, htold, -⟩ :=
    binding_is_its_history 0 "" .empty servers moves 0 b hb
  rw [hh] at hhistory
  simp only [Prod.mk.injEq, Option.map_some, Option.some.injEq] at hshown hhistory
  obtain ⟨hloading, hloaded, hsome, hfailed⟩ := hshown
  exact ⟨b, h, hb, hh, hhistory.1, hloading, hstate ▸ hloaded, hsnapshot ▸ hsome, herror ▸ hfailed,
    htold ▸ hhistory.2⟩

end World

end Lookout
