import Lookout.Proofs.Cache.RoundTrip
import Lookout.Proofs.World.Course

/-!
# What a run leaves in the cache

The entry for a key is that of the last success that was written to its place. Nothing else that
happens in a world changes it, as long as nobody disturbs the storage.

* **`read_run`** — an entry stays as long as no success is written to its place.
* **`Ends.read_ok`** — the entry of a success is read back exactly if its data does not nest too deep.
-/

namespace Lookout

/-- The move changes the storage past the cache. -/
def Move.disturbs : Move → Bool
  | .disturb _ _ _ => true
  | _ => false

/-- The fetch has succeeded. -/
def EndedFetch.succeeded (x : EndedFetch) : Bool := x.outcome.result.isOk

namespace World

variable {w v : World}

theorem Ends.succeeded {x : EndedFetch} {result : Except Fetch.Failure Json} (e : Ends w v x result) :
    x.succeeded = result.isOk := by
  rw [EndedFetch.succeeded, e.outcome]
  cases result <;> rfl

theorem ended_run (w : World) (moves : List Move) :
    ∃ fresh, (w.run moves).ended = fresh ++ w.ended := by
  induction moves using List.reverseRecOn with
  | nil => exact ⟨[], rfl⟩
  | append_singleton moves m ih =>
    obtain ⟨fresh, hfresh⟩ := ih
    rw [run_concat]
    rcases move_ends_or (w.run moves) m with ⟨hsame, -⟩ | ⟨x, result, hends⟩
    · exact ⟨fresh, hsame.trans hfresh⟩
    · exact ⟨x :: fresh, by rw [hends.ended, hfresh, List.cons_append]⟩

/-- A fetch that ends leaves the entries of other places alone. -/
theorem Ends.read_of_ne {x : EndedFetch} {result : Except Fetch.Failure Json} (e : Ends w v x result)
    (space : v.space = w.space) {key : String}
    (unwritten : x.succeeded = true →
      Cache.slotName w.space key ≠ Cache.slotName w.space x.job.policy.key) :
    v.read key = w.read key := by
  rw [read, read, space, e.storage]
  cases result with
  | ok payload => exact Cache.read_write_of_ne w.storage (unwritten e.succeeded) payload w.wall
  | error failure => rfl

/-- An entry stays as long as no success is written to its place. -/
theorem read_run {moves : List Move} (calm : ∀ m ∈ moves, m.disturbs = false) {key : String}
    {fresh : List EndedFetch} (hfresh : (w.run moves).ended = fresh ++ w.ended)
    (unwritten : ∀ x ∈ fresh, x.succeeded = true →
      Cache.slotName w.space key ≠ Cache.slotName w.space x.job.policy.key) :
    (w.run moves).read key = w.read key := by
  induction moves using List.reverseRecOn generalizing fresh with
  | nil => rfl
  | append_singleton moves m ih =>
    have hcalm : ∀ m ∈ moves, m.disturbs = false := fun k hk => calm k (List.mem_append_left _ hk)
    rw [run_concat] at hfresh ⊢
    rcases move_ends_or (w.run moves) m with ⟨hsame, hstorage | ⟨slots, getFails, setFails, rfl⟩⟩ |
      ⟨x, result, hends⟩
    · rw [hsame] at hfresh
      rw [← ih hcalm hfresh unwritten, read, read, hstorage, move_space]
    · cases calm _ (List.mem_append_right _ (List.mem_singleton_self _))
    · obtain ⟨fresh', hfresh'⟩ := ended_run w moves
      have hsplit : fresh = x :: fresh' := by
        rw [hends.ended, hfresh', ← List.cons_append] at hfresh
        exact (List.append_cancel_right hfresh).symm
      subst hsplit
      rw [← ih hcalm hfresh' fun y hy => unwritten y (List.mem_cons_of_mem _ hy)]
      refine hends.read_of_ne (move_space _ m) ?_
      rw [run_space]
      exact unwritten x List.mem_cons_self

/-- The storage does what it is asked for. -/
structure Works (w : World) : Prop where
  gets : w.storage.getFails = false
  sets : w.storage.setFails = false

theorem Ends.works {x : EndedFetch} {result : Except Fetch.Failure Json} (e : Ends w v x result)
    (h : Works w) : Works v := by
  cases result with
  | ok payload =>
    constructor
    · rw [e.storage, storageAfter, Cache.write, Cache.Storage.getFails_set, h.gets]
    · rw [e.storage, storageAfter, Cache.write, Cache.Storage.setFails_set, h.sets]
  | error failure =>
    constructor
    · rw [e.storage, storageAfter, h.gets]
    · rw [e.storage, storageAfter, h.sets]

/-- The storage goes on working as long as nobody disturbs it. -/
theorem works_run (h : Works w) {moves : List Move} (calm : ∀ m ∈ moves, m.disturbs = false) :
    Works (w.run moves) := by
  induction moves using List.reverseRecOn with
  | nil => exact h
  | append_singleton moves m ih =>
    have hmoves := ih fun k hk => calm k (List.mem_append_left _ hk)
    rw [run_concat]
    rcases move_ends_or (w.run moves) m with ⟨-, hstorage | ⟨slots, getFails, setFails, rfl⟩⟩ |
      ⟨x, result, hends⟩
    · exact ⟨hstorage ▸ hmoves.gets, hstorage ▸ hmoves.sets⟩
    · cases calm _ (List.mem_append_right _ (List.mem_singleton_self _))
    · exact hends.works hmoves

/-- The entry of a success is read back exactly if its data does not nest too deep. -/
theorem Ends.read_ok {x : EndedFetch} {payload : Json} (e : Ends w v x (.ok payload))
    (space : v.space = w.space) (works : Works w) (readable : Json.Readable payload)
    {entry : Cache.Entry} (success : x.outcome.result = .ok entry)
    (stamp : Cache.IsStamp entry.savedAt) :
    v.read x.job.policy.key =
      if Json.depth payload ≤ Cache.payloadDepth then some entry else none := by
  have hentry : entry = Cache.stamp w.space w.storage x.job.policy.key payload w.wall := by
    rw [e.outcome] at success
    exact (Except.ok.inj success).symm
  subst hentry
  rw [read, space, e.storage]
  exact Cache.read_write works.gets works.sets readable stamp

end World

end Lookout
