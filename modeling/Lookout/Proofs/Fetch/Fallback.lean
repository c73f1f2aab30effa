import Lookout.Proofs.Fetch.Merge
import Lookout.Proofs.World.Reads

/-!
# What a failing section falls back to

An optional section whose request fails keeps the value that it had in the snapshot before. The snapshot
is the one that the cache holds when the fetch begins, not the one that is replaced when it ends: if
another fetch for the key has written a new value meanwhile, the older one is written over it.

* **`fallback_of_ended`** — the value of a failing section is that from the beginning of the fetch, and
  is the one replaced at its end exactly if that has not changed between the two.
* **`newer_value_lost`** — two fetches that overlap, of which the later loses its value.
-/

namespace Lookout

namespace World

open Fetch (previousValue)

/-- The value of a section in the snapshot that the cache holds for a key. -/
def heldValue (w : World) (key name : String) : Json := previousValue (w.held key) name

/-- The last answer under the name of a section, and it is a failure. -/
def LastFails (answers : List (Section × Except Fetch.Failure Json)) (s : Section) : Prop :=
  ∃ front e back, answers = front ++ (s, .error e) :: back ∧ ∀ a ∈ back, a.1.name ≠ s.name

/-- A fetch that succeeds gives a failing section the value that it had when the fetch began. -/
theorem get?_of_lastFails {w : World} {job : Job} {payload : Json}
    (h : w.resultOf job = .ok payload) {s : Section} (fails : LastFails (w.answersTo job) s) :
    s.isOptional = true ∧
      Json.get? s.name payload = some (w.heldValue job.policy.key s.name) := by
  obtain ⟨front, e, back, hanswers, hlast⟩ := fails
  have hmerge := merge_of_resultOf h
  rw [hanswers] at hmerge
  exact ⟨Fetch.isOptional_of_merge hmerge (List.mem_append_right _ List.mem_cons_self),
    Fetch.get?_of_merge hlast hmerge⟩

/-- No success has been written to the place of a key during some moves, and nobody has disturbed the
storage. -/
structure Unwritten (w : World) (moves : List Move) (key : String) : Prop where
  calm : ∀ m ∈ moves, m.disturbs = false
  apart : ∀ fresh, (w.run moves).ended = fresh ++ w.ended → ∀ x ∈ fresh, x.succeeded = true →
    Cache.slotName w.space key ≠ Cache.slotName w.space x.job.policy.key

theorem Unwritten.read_eq {w : World} {moves : List Move} {key : String} (u : Unwritten w moves key) :
    (w.run moves).read key = w.read key := by
  obtain ⟨fresh, hfresh⟩ := ended_run w moves
  exact read_run u.calm hfresh (u.apart fresh hfresh)

/-- In every run, a fetch that succeeds although the request of a section failed writes for that section
the value that the cache held when the fetch began. It is the value that the cache holds at the moment
of the write exactly if this is still the same, and so it is if nothing has been written for the key
between the two moments. -/
theorem fallback_of_ended (calendar : Int) (space : String) (storage : Cache.Storage)
    (servers : Servers) (moves : List Move) {later earlier : List EndedFetch} {x : EndedFetch}
    (hx : ((start calendar space storage servers).run moves).ended = later ++ x :: earlier)
    {entry : Cache.Entry} (success : x.outcome.result = .ok entry) :
    let w := start calendar space storage servers
    ∃ before between last after, moves = before ++ between ++ last :: after ∧
      Course w before between last x (.ok entry.payload) ∧
      ∀ s, LastFails ((w.run before).answersTo x.job) s →
        let atStart := (w.run before).heldValue x.job.policy.key s.name
        let atWrite := (w.run (before ++ between)).heldValue x.job.policy.key s.name
        s.isOptional = true ∧ Json.get? s.name entry.payload = some atStart ∧
          (Json.get? s.name entry.payload = some atWrite ↔ atWrite = atStart) ∧
          (Unwritten (w.run before) between x.job.policy.key →
            Json.get? s.name entry.payload = some atWrite) := by
  intro w
  obtain ⟨before, between, last, after, hmoves, -, course⟩ :=
    course_of_success (accounts_start calendar space storage servers) rfl rfl hx success
  refine ⟨before, between, last, after, hmoves, course, ?_⟩
  intro s fails atStart atWrite
  obtain ⟨hoptional, hvalue⟩ := get?_of_lastFails course.known fails
  refine ⟨hoptional, hvalue, ?_, ?_⟩
  · rw [hvalue, Option.some.injEq]
    exact eq_comm
  · intro unwritten
    have hheld : atWrite = atStart := by
      show previousValue ((w.run (before ++ between)).held _) _ = _
      rw [held, run_append, unwritten.read_eq]
      rfl
    rw [hheld]
    exact hvalue

/-! ## Two fetches that overlap -/

namespace Overlap

/-- A required section that answers late the first time, and an optional one that fails the first
time. -/
def servers : Servers := fun path count =>
  match path, count with
  | "a", 0 => ⟨100, .ok (.ofNat 1)⟩
  | "a", _ => ⟨0, .ok (.ofNat 2)⟩
  | _, 0 => ⟨0, .error (.http "b" 503)⟩
  | _, _ => ⟨0, .ok (.str "new")⟩

/-- The two sections. -/
def sections : List Section := [.get "a" "a", { Section.get "b" "b" with isOptional := true }]

/-- The world before the page is mounted. -/
def world : World := start 0 "" .empty servers

/-- The page is mounted and refreshed at once. -/
def opening : List Move := [.mount (.every "res" (.ofSecs 30)) sections, .refresh 0]

/-- The first fetch begins; the second begins and ends; time passes. -/
def meanwhile : List Move := [.goOn (.job 0), .goOn (.job 1), .clock 100]

/-- What the first fetch gets for its requests: the optional section fails. -/
def lateAnswers : List (Section × Except Fetch.Failure Json) :=
  [(.get "a" "a", .ok (.ofNat 1)),
    ({ Section.get "b" "b" with isOptional := true }, .error (.http "b" 503))]

/-- The snapshot that the second fetch writes. -/
def newer : Json := .obj [("a", .ofNat 2), ("b", .str "new")]

/-- The snapshot that the first fetch writes over it. -/
def older : Json := .obj [("a", .ofNat 1), ("b", .null)]

/-- The storage between the two writes. -/
def between : Cache.Storage := (Cache.write "" .empty "res" newer 0).1

theorem readable_of_merge {answers : List (Section × Except Fetch.Failure Json)} {payload : Json}
    (h : Fetch.merge none answers = .ok payload)
    (hvalues : ∀ a ∈ answers, Json.Ordered (Fetch.answerValue none a)) (hreals : Json.reals payload = []) :
    Json.Readable payload :=
  ⟨Fetch.ordered_of_merge h hvalues, by rw [hreals]; exact List.forall_mem_nil _⟩

theorem readable_newer : Json.Readable newer := by
  have hmerge : Fetch.merge none
      [(.get "a" "a", .ok (.ofNat 2)),
        ({ Section.get "b" "b" with isOptional := true }, .ok (.str "new"))] = .ok newer := rfl
  refine readable_of_merge hmerge ?_ rfl
  intro a ha
  simp only [List.mem_cons, List.not_mem_nil, or_false] at ha
  rcases ha with rfl | rfl <;> trivial

theorem readable_older : Json.Readable older := by
  have hmerge : Fetch.merge none lateAnswers = .ok older := rfl
  refine readable_of_merge hmerge ?_ rfl
  intro a ha
  simp only [lateAnswers, List.mem_cons, List.not_mem_nil, or_false] at ha
  rcases ha with rfl | rfl <;> trivial

theorem read_newer : Cache.read "" between "res" = some (Cache.write "" .empty "res" newer 0).2 :=
  (Cache.read_write rfl rfl readable_newer (Cache.isStamp_stamp _ _ _ _ (by decide))).trans
    (if_pos (by decide))

theorem read_older : Cache.read "" (Cache.write "" between "res" older 100).1 "res" =
    some (Cache.write "" between "res" older 100).2 := by
  have hworks : between.getFails = false ∧ between.setFails = false := by
    simp [between, Cache.write, Cache.Storage.empty]
  exact (Cache.read_write hworks.1 hworks.2 readable_older
    (Cache.isStamp_stamp _ _ _ _ (by decide))).trans (if_pos (by decide))

end Overlap

open Overlap in
/-- Two fetches for a key overlap. The request for the optional section fails in the one that began first
and succeeds in the other, which has ended and stored the value; the first one ends last and replaces it
by the null that it found at its beginning. -/
theorem newer_value_lost :
    let v := (world.run opening).run meanwhile
    let u := v.move (.goOn (.job 0))
    (world.run opening).answersTo ⟨0, 0, .foreground, .every "res" (.ofSecs 30), sections, .spawned⟩ =
        lateAnswers ∧
      (∃ x, u.ended = x :: v.ended ∧ x.job.id = 0 ∧ x.succeeded = true) ∧
      v.heldValue "res" "b" = .str "new" ∧ u.heldValue "res" "b" = .null := by
  intro v u
  refine ⟨rfl, ⟨_, rfl, rfl, rfl⟩, ?_, ?_⟩
  · have hread : v.read "res" = some (Cache.write "" .empty "res" newer 0).2 := read_newer
    rw [heldValue, held, hread]
    rfl
  · have hread : u.read "res" = some (Cache.write "" between "res" older 100).2 := read_older
    rw [heldValue, held, hread]
    rfl

open Overlap in
/-- The first of the two fetches falls back to what it found at its beginning. -/
theorem late_fetch_falls_back :
    ∃ x entry earlier, (world.run (opening ++ meanwhile ++ [.goOn (.job 0)])).ended = [] ++ x :: earlier ∧
      x.outcome.result = .ok entry ∧
      ∃ before between last after,
        opening ++ meanwhile ++ [.goOn (.job 0)] = before ++ between ++ last :: after ∧
        Course world before between last x (.ok entry.payload) ∧
        ∀ s, LastFails ((world.run before).answersTo x.job) s →
          s.isOptional = true ∧
            Json.get? s.name entry.payload =
              some ((world.run before).heldValue x.job.policy.key s.name) := by
  refine ⟨_, _, _, rfl, rfl, ?_⟩
  obtain ⟨before, between, last, after, hmoves, course, hvalues⟩ :=
    fallback_of_ended 0 "" .empty Overlap.servers (opening ++ meanwhile ++ [.goOn (.job 0)])
      (show _ = [] ++ _ :: _ from rfl) rfl
  exact ⟨before, between, last, after, hmoves, course, fun s hs =>
    ⟨(hvalues s hs).1, (hvalues s hs).2.1⟩⟩

end World

end Lookout
