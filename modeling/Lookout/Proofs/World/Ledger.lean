import Lookout.Proofs.World.Histories

/-!
# The ledger of writes

Every fetch that begins and ends has one outcome, and the storage is asked for one write by each
success and for none by a failure: the writes are, entry by entry and in the same order, the successes.
Fetches may overlap in any way, and their bindings may be gone by then.

* **`tried_run`** — the writes that the storage is asked for are those of the successes.
* **`ledger`** — the accounts of outcomes, writes and snapshots over a run.
-/

namespace Lookout

/-- The write that an ended fetch asks for: that of its entry, and none if it failed. -/
def EndedFetch.write? (space : String) (x : EndedFetch) : Option (String × String) :=
  x.outcome.success?.map fun e =>
    (Cache.slotName space x.job.policy.key, Cache.storedText e.payload e.savedAt)

/-- The storage notes every write that it is asked for, whether it works or not. -/
theorem Cache.Storage.tried_set (s : Storage) (name text : String) :
    (s.set name text).tried = (name, text) :: s.tried := by
  unfold set
  dsimp only
  split <;> rfl

namespace World

/-- A fetch that ends asks for its write and no other. -/
theorem Ends.tried {w v : World} {x : EndedFetch} {result : Except Fetch.Failure Json}
    (e : Ends w v x result) :
    v.storage.tried = (x.write? w.space).toList ++ w.storage.tried := by
  rw [e.storage, EndedFetch.write?, e.outcome]
  cases result with
  | ok payload => exact Cache.Storage.tried_set _ _ _
  | error failure => rfl

/-- The writes that the storage is asked for are those of the successes, in the same order. -/
theorem tried_run (w : World) (hended : w.ended = []) (moves : List Move) :
    (w.run moves).storage.tried =
      (w.run moves).ended.filterMap (·.write? w.space) ++ w.storage.tried := by
  induction moves using List.reverseRecOn with
  | nil => simp [hended]
  | append_singleton moves m ih =>
    rw [run_concat]
    rcases move_ends_or (w.run moves) m with ⟨hended, hsame | ⟨slots, getFails, setFails, rfl⟩⟩ |
      ⟨x, result, hends⟩
    · rw [hsame, hended]
      exact ih
    · exact ih
    · rw [hends.tried, hends.ended, ih, run_space, filterMap_cons_eq, List.append_assoc]

/-- The writes to a place are those of the fetches for its keys. -/
theorem filter_writes (space slot : String) (xs : List EndedFetch) :
    (xs.filterMap (·.write? space)).filter (·.1 = slot) =
      (xs.filter fun x => Cache.slotName space x.job.policy.key = slot).filterMap (·.write? space) := by
  induction xs with
  | nil => rfl
  | cons x xs ih =>
    have hplace : ∀ write, x.write? space = some write →
        write.1 = Cache.slotName space x.job.policy.key := by
      intro write hwrite
      obtain ⟨e, -, rfl⟩ := Option.map_eq_some_iff.1 hwrite
      rfl
    cases hwrite : x.write? space with
    | none =>
      rw [List.filterMap_cons_none hwrite, ih, List.filter_cons]
      split
      · rw [List.filterMap_cons_none hwrite]
      · rfl
    | some write =>
      rw [List.filterMap_cons_some hwrite, List.filter_cons, List.filter_cons, ih,
        hplace write hwrite]
      split
      · rw [List.filterMap_cons_some hwrite]
      · rfl

/-- The last success of the fetches for a binding is the last among their outcomes. -/
theorem last_entry_outcomesOf {w : World} {n : Nat} {later earlier : List EndedFetch} {x : EndedFetch}
    (hx : w.ended = later ++ x :: earlier) (own : x.job.binding = n) {e : Cache.Entry}
    (success : x.outcome.success? = some e)
    (last : ∀ y ∈ later, y.job.binding = n → y.outcome.success? = none) :
    ((w.outcomesOf n).filterMap (·.success?)).getLast? = some e := by
  have hlater : ((later.filter (·.job.binding = n)).map (·.outcome)).filterMap (·.success?) = [] := by
    rw [List.filterMap_eq_nil_iff]
    intro o ho
    obtain ⟨y, hy, rfl⟩ := List.mem_map.1 ho
    obtain ⟨hmem, hown⟩ := List.mem_filter.1 hy
    exact last y hmem (by simpa using hown)
  rw [outcomesOf, List.filterMap_reverse, List.getLast?_reverse, hx, List.filter_append,
    List.map_append, List.filterMap_append, hlater, List.filter_cons_of_pos (by simpa using own)]
  simp [success]

/-- Once a binding has applied everything, it shows the entry of the last success of its fetches. -/
theorem Follows.snapshot_of_last {w : World} {n : Nat} {b : Binding} {h : History}
    (f : Follows w n b h) (live : b.state ≠ .terminal) (empty : b.inbox = []) {e : Cache.Entry}
    (last : ((w.outcomesOf n).filterMap (·.success?)).getLast? = some e) : b.snapshot = some e := by
  have hgone : h.gone = false := by
    rw [f.shows.state, Ne, History.state_eq_terminal_iff] at live
    simpa using live
  have happlied := f.arrived hgone
  rw [empty, List.append_nil] at happlied
  rw [f.shows.snapshot, History.snapshot, happlied, last]
  rfl

/-- The accounts of outcomes, writes and snapshots over a run, however fetches overlap and whatever
else happens: a fetch that has begun is still running or has ended, once, and no fetch has ended that
has not begun; the writes that the storage was asked for are those of the successes, in the same order,
for each place as well as over all; the outcome of each fetch is its failure, or the snapshot merged from
the answers of its sections and what the cache held when it began, with the stamp that it got when it was
written; and a binding that has applied everything shows the entry of the last write of its own
fetches. -/
theorem ledger (calendar : Int) (space : String) (storage : Cache.Storage) (servers : Servers)
    (moves : List Move) :
    let w := start calendar space storage servers
    let v := w.run moves
    (∀ f ∈ v.begun, v.runningIds.count f.job.id + v.endedIds.count f.job.id = 1) ∧
      (∀ x ∈ v.ended, (v.begun.map (·.job.id)).count x.job.id = 1) ∧
      v.storage.tried = v.ended.filterMap (·.write? space) ++ storage.tried ∧
      (∀ key, v.storage.tried.filter (·.1 = Cache.slotName space key) =
        (v.ended.filter fun x => Cache.slotName space x.job.policy.key = Cache.slotName space key).filterMap
            (·.write? space) ++ storage.tried.filter (·.1 = Cache.slotName space key)) ∧
      (∀ later x earlier, v.ended = later ++ x :: earlier →
        ∃ before between last after result, moves = before ++ between ++ last :: after ∧
          Course w before between last x result ∧
          x.outcome = ⟨x.job.mode, match result with
            | .ok payload => .ok (Cache.stamp space (w.run (before ++ between)).storage x.job.policy.key
                payload (w.run (before ++ between)).wall)
            | .error e => .error e⟩ ∧
          ((w.run before).answersTo x.job).map (·.1) = x.job.sections ∧
          (∀ payload, result = .ok payload →
            Fetch.merge ((w.run before).held x.job.policy.key) ((w.run before).answersTo x.job) =
              .ok payload) ∧
          (w.run (before ++ between ++ [last])).storage.tried =
            (x.write? space).toList ++ (w.run (before ++ between)).storage.tried) ∧
      (∀ n b, v.binding? n = some b → b.state ≠ .terminal → b.inbox = [] →
        ∀ later x earlier e, v.ended = later ++ x :: earlier → x.job.binding = n →
          x.outcome.success? = some e → (∀ y ∈ later, y.job.binding = n → y.write? space = none) →
          b.snapshot = some e) := by
  intro w v
  have haccounts : Accounts v := accounts_run (accounts_start calendar space storage servers) moves
  have htried : v.storage.tried = v.ended.filterMap (·.write? space) ++ storage.tried :=
    tried_run w rfl moves
  refine ⟨fun f hf => haccounts.count_of_begun hf, fun x hx => haccounts.count_of_ended hx, htried,
    ?_, ?_, ?_⟩
  · intro key
    rw [htried, List.filter_append, filter_writes]
  · intro later x earlier hx
    obtain ⟨before, between, last, after, result, hmoves, -, hcourse⟩ :=
      course_of_ended (accounts_start calendar space storage servers) rfl rfl hx
    refine ⟨before, between, last, after, result, hmoves, hcourse, ?_, map_fst_answersTo _ _, ?_, ?_⟩
    · rw [hcourse.ends.outcome]
      cases result with
      | ok payload =>
        rw [outcomeOf, run_space]
        rfl
      | error e => rfl
    · intro payload hpayload
      exact merge_of_resultOf (hcourse.known.trans hpayload)
    · rw [hcourse.ends.tried, run_space]
      rfl
  · intro n b hb hlive hempty later x earlier e hx hown hsuccess hlast
    obtain ⟨h, -, f⟩ := history_of_run calendar space storage servers moves hb
    refine f.snapshot_of_last hlive hempty (last_entry_outcomesOf hx hown hsuccess ?_)
    intro y hy hyn
    exact Option.map_eq_none_iff.1 (hlast y hy hyn)

/-- A page without data is fetched for, and the answer comes after a while: the fetch begins, writes and
ends once, and the page shows the entry that was written. -/
theorem one_fetch_entered :
    let servers : Servers := fun _ _ => ⟨5, .ok .null⟩
    let v := (start 0 "" .empty servers).run [.mount (.every "servers" (.ofSecs 30)) [.get "a" "a"],
      .goOn (.job 0), .clock 5, .goOn (.job 0), .poll 0 (.new (.ofSecs 5))]
    ∃ x e b, v.ended = [x] ∧ v.runningIds.count x.job.id + v.endedIds.count x.job.id = 1 ∧
      (v.begun.map (·.job.id)).count x.job.id = 1 ∧ x.outcome.success? = some e ∧
      v.storage.tried = (x.write? "").toList ∧ v.binding? 0 = some b ∧ b.snapshot = some e := by
  intro servers v
  have hended : v.ended.map (fun x => (x.job.binding, x.outcome.success?.isSome)) = [(0, true)] := by
    decide +kernel
  have hbinding : (v.binding? 0).map (fun b => (b.isMounted, b.inbox.length)) = some (true, 0) := by
    decide +kernel
  have hlength : v.ended.length = 1 := by simpa using congrArg List.length hended
  obtain ⟨x, hx⟩ := List.length_eq_one_iff.1 hlength
  obtain ⟨b, hb, hshown⟩ := Option.map_eq_some_iff.1 hbinding
  rw [hx] at hended
  simp only [List.map_cons, List.map_nil, List.cons.injEq, Prod.mk.injEq, and_true] at hended hshown
  obtain ⟨e, he⟩ := Option.isSome_iff_exists.1 hended.2
  obtain ⟨hbegun, honce, htried, -, -, hsnapshot⟩ := ledger 0 "" .empty servers
    [.mount (.every "servers" (.ofSecs 30)) [.get "a" "a"], .goOn (.job 0), .clock 5, .goOn (.job 0),
      .poll 0 (.new (.ofSecs 5))]
  have hone : (v.begun.map (·.job.id)).count x.job.id = 1 := honce x (hx ▸ List.mem_singleton_self x)
  obtain ⟨f, hf, hid⟩ := List.mem_map.1 (List.count_pos_iff.1 (hone ▸ Nat.one_pos))
  have hcount := hbegun f hf
  rw [hid] at hcount
  have hwrites : v.storage.tried = (x.write? "").toList := by
    have hall : v.storage.tried = [x].filterMap (·.write? "") ++ [] := hx ▸ htried
    rw [hall, filterMap_cons_eq, List.filterMap_nil, List.append_nil, List.append_nil]
  have hlive : b.state ≠ .terminal := by simpa [Binding.isMounted] using hshown.1
  have hempty : b.inbox = [] := List.length_eq_zero_iff.1 hshown.2
  have hnone : ∀ y ∈ ([] : List EndedFetch), y.job.binding = 0 → y.write? "" = none :=
    List.forall_mem_nil _
  exact ⟨x, e, b, hx, hcount, hone, he, hwrites, hb,
    hsnapshot 0 b hb hlive hempty [] x [] e hx hended.1 he hnone⟩

end World

end Lookout
