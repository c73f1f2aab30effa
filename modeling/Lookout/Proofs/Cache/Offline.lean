import Lookout.Proofs.Fetch.Merge
import Lookout.Proofs.World.Reads

/-!
# The data of the last success

What a page shows before it has fetched anything: the entry of the last success for its key. A server's
answer may nest 127 deep to be accepted, but it is stored within a snapshot, which is stored within an
entry, and an entry is only read back if it nests no deeper than an answer may. An answer that nests
deeper than 125 is therefore lost, and the page starts without data.

* **`ordered_of_ended`** — the snapshots that fetches write are in order.
* **`read_of_last_success`** — the entry of the last success is found exactly if no section of it nests
  deeper than 125.
* **`deep_answer_lost`** — an answer that is accepted and lost.
-/

namespace Lookout

namespace World

open Fetch (previousValue)

/-- The servers answer with documents that a reader accepts. -/
def Accepted (servers : Servers) : Prop :=
  ∀ path count v, (servers path count).result = .ok v → ∃ text, Json.parse? text = some v

/-- What the cache holds is in order, and so is the value of a section in it. -/
theorem ordered_previousValue (w : World) (key name : String) :
    Json.Ordered (previousValue (w.held key) name) := by
  unfold held previousValue
  cases hread : w.read key with
  | none => trivial
  | some e =>
    have hshaped := (Cache.read_known hread).2.1
    show Json.Ordered ((Json.get? name e.payload).getD .null)
    cases hget : Json.get? name e.payload with
    | none => trivial
    | some v => exact hshaped.ordered.get? hget

/-- A snapshot merged from accepted answers is in order. -/
theorem ordered_of_resultOf {w : World} (h : Accepted w.servers) {job : Job} {payload : Json}
    (hresult : w.resultOf job = .ok payload) : Json.Ordered payload := by
  refine Fetch.ordered_of_merge (merge_of_resultOf hresult) ?_
  rintro ⟨s, answer⟩ ha
  cases answer with
  | ok v =>
    obtain ⟨count, hcount⟩ := served_of_mem_answersTo ha
    obtain ⟨text, htext⟩ := h s.path count v hcount
    exact (Json.parse?_shaped htext).ordered
  | error e => exact ordered_previousValue w _ _

theorem depth_obj_le_iff (fields : List (String × Json)) :
    Json.depth (.obj fields) ≤ Cache.payloadDepth ↔
      ∀ f ∈ fields, Json.depth f.2 < Cache.payloadDepth := by
  have hsucc : Cache.payloadDepth = 125 + 1 := rfl
  rw [Json.depth, hsucc, Nat.add_le_add_iff_right, Json.depthFields_le_iff]
  exact forall₂_congr fun f _ => Nat.lt_succ_iff.symm

/-- The snapshots that fetches write are in order, as long as the servers' answers are accepted. -/
theorem ordered_of_course {w : World} (h : Accepted w.servers) {before between : List Move}
    (served : ∀ s, .serve s ∈ before → Accepted s) {last : Move} {x : EndedFetch}
    {payload : Json} (course : Course w before between last x (.ok payload)) :
    Json.Ordered payload :=
  ordered_of_resultOf (run_servers h served) course.known

/-- The entry of the last success for a key, if each of its sections nests less than 126 deep. -/
def kept (fields : List (String × Json)) (entry : Cache.Entry) : Option Cache.Entry :=
  if ∀ f ∈ fields, Json.depth f.2 < Cache.payloadDepth then some entry else none

/-- After a success, as long as the storage works and nobody else writes to it, and until the next
success for the key, the cache holds the entry of the success exactly if no section of it nests deeper
than 125; and so a page of the key that is mounted then starts with that entry, or without data. It is
assumed that the numbers of the snapshot are the same when they are printed and read again, that the
time fits 64 bits, and that no other key that has been written since has the same digest. -/
theorem read_of_last_success (calendar : Int) (space : String) (storage : Cache.Storage)
    (servers : Servers) (moves : List Move) {later earlier : List EndedFetch} {x : EndedFetch}
    (hx : ((start calendar space storage servers).run moves).ended = later ++ x :: earlier)
    {entry : Cache.Entry} (success : x.outcome.result = .ok entry)
    (working : storage.getFails = false ∧ storage.setFails = false)
    (undisturbed : ∀ m ∈ moves, m.disturbs = false) (accepted : Accepted servers)
    (served : ∀ s, .serve s ∈ moves → Accepted s)
    (latest : ∀ y ∈ later, y.succeeded = true → y.job.policy.key ≠ x.job.policy.key)
    (apart : ∀ y ∈ later, y.job.policy.key ≠ x.job.policy.key →
      Cache.slotName space x.job.policy.key ≠ Cache.slotName space y.job.policy.key)
    (numbers : ∀ r ∈ Json.reals entry.payload, Json.ReadsBack r)
    (stamp : Cache.IsStamp entry.savedAt) :
    let w := (start calendar space storage servers).run moves
    ∃ fields, entry.payload = .obj fields ∧ w.read x.job.policy.key = kept fields entry ∧
      ∀ policy sections, policy.key = x.job.policy.key →
        (w.mount policy sections).binding? w.mounted.length =
          some (.mounted policy.key (kept fields entry)) := by
  intro w
  obtain ⟨before, between, last, after, hmoves, hearlier, course⟩ :=
    course_of_success (accounts_start calendar space storage servers) rfl rfl hx success
  let v := (start calendar space storage servers).run (before ++ between)
  let u := (start calendar space storage servers).run (before ++ between ++ [last])
  have hparts : moves = before ++ between ++ [last] ++ after := by simpa using hmoves
  obtain ⟨fields, -, hfields⟩ := Fetch.merge_eq_ok (merge_of_resultOf course.known)
  have hordered : Json.Ordered entry.payload := by
    refine ordered_of_course accepted (fun s hs => served s ?_) course
    rw [hmoves]
    simp [hs]
  -- What is found right after the success.
  have hworks : Works v := by
    refine works_run ⟨working.1, working.2⟩ fun m hm => undisturbed m ?_
    rw [hmoves]
    exact List.mem_append_left _ hm
  have hread : u.read x.job.policy.key = kept fields entry := by
    have hspace : u.space = v.space := by simp only [u, v, run_space]
    rw [course.ends.read_ok hspace hworks ⟨hordered, numbers⟩ success stamp, kept, hfields]
    exact if_congr (depth_obj_le_iff fields) rfl rfl
  -- Nothing is written to the place of the key after that.
  have hkept : w.read x.job.policy.key = u.read x.job.policy.key := by
    have hrun : w = u.run after := by
      simp only [w, u]
      rw [hparts, run_append]
    have hfresh : (u.run after).ended = later ++ u.ended := by
      rw [← hrun, hx, course.ends.ended, hearlier]
    rw [hrun]
    refine read_run (fun m hm => undisturbed m ?_) hfresh ?_
    · rw [hparts]
      exact List.mem_append_right _ hm
    · intro y hy hsucceeded
      have hspace : u.space = space := run_space _ _
      rw [hspace]
      exact apart y hy (latest y hy hsucceeded)
  refine ⟨fields, hfields, hkept.trans hread, ?_⟩
  intro policy sections hkey
  rw [binding?_mount, if_pos rfl, hkey, hkept, hread]

/-! ## A success that is kept and one that is lost -/

/-- A list within a list, so many deep. -/
def nested : Nat → Json
  | 0 => .arr []
  | n + 1 => .arr [nested n]

theorem depth_nested (n : Nat) : Json.depth (nested n) = n + 1 := by
  induction n with
  | zero => rfl
  | succ n ih => rw [nested, Json.depth, Json.depthItems, Json.depthItems, ih, Nat.max_zero]

theorem readable_nested (n : Nat) : Json.Readable (nested n) := by
  induction n with
  | zero => exact ⟨trivial, List.forall_mem_nil _⟩
  | succ n ih =>
    refine ⟨⟨ih.ordered, trivial⟩, ?_⟩
    show ∀ x ∈ Json.reals (nested n) ++ [], Json.ReadsBack x
    rw [List.append_nil]
    exact ih.reals

/-- The world in which every request is answered at once with lists so many deep. -/
def nestedWorld (n : Nat) : World := start 0 "" .empty fun _ _ => ⟨0, .ok (nested n)⟩

/-- A page is mounted, and its first fetch begins and ends. -/
def firstFetch : List Move := [.mount (.every "res" (.ofSecs 30)) [.get "s" "s"], .goOn (.job 0)]

theorem accepted_nested {n : Nat} (h : n < Json.maxDepth) :
    Accepted fun _ _ => ⟨0, .ok (nested n)⟩ := by
  rintro path count v ⟨⟩
  refine ⟨(nested n).text, ?_⟩
  rw [Json.parse?_text (readable_nested n), if_pos]
  rw [depth_nested]
  exact h

theorem readable_snapshot (n : Nat) : Json.Readable (.obj [("s", nested n)]) := by
  refine ⟨⟨List.pairwise_singleton _ _, (readable_nested n).ordered, trivial⟩, ?_⟩
  show ∀ x ∈ Json.reals (nested n) ++ [], Json.ReadsBack x
  rw [List.append_nil]
  exact (readable_nested n).reals

/-- An answer that is accepted and lost: its lists nest 126 deep, the fetch succeeds, and right after
that the cache holds nothing for the key and a page that is mounted starts without data. -/
theorem deep_answer_lost :
    let w := (nestedWorld 125).run firstFetch
    (∃ text, Json.parse? text = some (nested 125)) ∧
      (∃ x entry, w.ended = [x] ∧ x.outcome.result = .ok entry ∧
        entry.payload = .obj [("s", nested 125)]) ∧
      w.read "res" = none ∧
      (w.mount (.every "res" (.ofSecs 30)) []).binding? 1 = some (.mounted "res" none) := by
  intro w
  have hdeep : ¬ Json.depth (.obj [("s", nested 125)]) ≤ Cache.payloadDepth := by
    rw [Json.depth, Json.depthFields, Json.depthFields, depth_nested]
    decide
  have hwrite : Cache.read "" (Cache.write "" .empty "res" (.obj [("s", nested 125)]) 0).1 "res" =
      if Json.depth (.obj [("s", nested 125)]) ≤ Cache.payloadDepth then
        some (Cache.write "" .empty "res" (.obj [("s", nested 125)]) 0).2 else none :=
    Cache.read_write rfl rfl (readable_snapshot 125) (Cache.isStamp_stamp _ _ _ _ (by decide))
  have hread : w.read "res" = none := hwrite.trans (if_neg hdeep)
  refine ⟨accepted_nested (by decide) "s" 0 _ rfl, ⟨_, _, rfl, rfl, rfl⟩, hread, ?_⟩
  have hlength : 1 = w.mounted.length := rfl
  have hmount := binding?_mount w (.every "res" (.ofSecs 30)) [] 1
  rw [if_pos hlength] at hmount
  rw [hmount]
  exact congrArg (fun cached => some (Binding.mounted "res" cached)) hread

/-- An answer that nests 125 deep is kept: the page that is mounted next starts with it. -/
theorem shallow_answer_kept :
    ∃ x entry, ((nestedWorld 124).run firstFetch).ended = [] ++ x :: [] ∧
      x.outcome.result = .ok entry ∧
      ((nestedWorld 124).run firstFetch).read x.job.policy.key = some entry ∧
      (((nestedWorld 124).run firstFetch).mount (.every "res" (.ofSecs 30)) []).binding? 1 =
        some (.mounted "res" (some entry)) := by
  refine ⟨_, _, rfl, rfl, ?_⟩
  obtain ⟨fields, hfields, hread, hmount⟩ := read_of_last_success 0 "" .empty
    (fun _ _ => ⟨0, .ok (nested 124)⟩) firstFetch (show _ = [] ++ _ :: [] from rfl) rfl ⟨rfl, rfl⟩
    (by decide) (accepted_nested (by decide)) (by simp [firstFetch]) (by simp) (by simp)
    (readable_snapshot 124).reals (Cache.isStamp_stamp _ _ _ _ (by decide))
  have hkept (entry : Cache.Entry) : kept fields entry = some entry := by
    have hfields' : [("s", nested 124)] = fields := Json.obj.inj hfields
    rw [kept, ← hfields', if_pos]
    rw [List.forall_mem_singleton, depth_nested]
    decide
  rw [hkept] at hread
  refine ⟨hread, ?_⟩
  rw [← hkept]
  exact hmount (.every "res" (.ofSecs 30)) [] rfl

end World

end Lookout
