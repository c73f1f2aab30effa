import Lookout.Page.Basic
import Lookout.Proofs.World.Histories

/-!
# What a page presents

The heading and the text in place of the content, as functions of the snapshot, of how many fetches the
user still waits for, and of the last outcome that was applied. A page whose data is decoded from the
snapshot of a binding that follows its history presents exactly that.

* **`ageMark_eq_stale_iff`** — when the heading says that the content is stale.
* **`presents`** — what the page of a live binding presents.
* **`Presents.placeholder?_ne_noData`** — a page never says that there is no data without saying why.
-/

namespace Lookout

open World

/-- The failure of the last of some outcomes, none if it succeeded or there are none. -/
def lastFailure? (applied : List Fetch.Outcome) : Option Fetch.Failure :=
  applied.getLast?.bind (·.failure?)

/-- How many fetches the user of a binding still waits for: those under way, and those whose outcomes the
page has not looked at. -/
def World.outstanding (w : World) (n : Nat) (b : Binding) : Nat := w.awaited n + foregroundCount b.inbox

namespace PageContent

variable {α : Type}

/-- The text of a page that has nothing to show because the last fetch failed. -/
def failureText (title : String) (e : Fetch.Failure) : String :=
  "Failed to load " ++ title ++ ": " ++ e.message ++ "\n\nPress 'r' to retry."

/-- What the heading says of the content: the number of items, or what keeps them from being shown. -/
def contentLabel (data : Option (Except Decode.Mismatch α)) (outstanding : Nat) (count : Option Nat) :
    String :=
  match data with
  | some (.ok _) => (count.map fun n => s!" ({n})").getD ""
  | some (.error _) => " (unexpected data)"
  | none => if 0 < outstanding then " (loading...)" else " (error)"

/-- What the heading says of the age of the content. -/
def ageMark (snapshot : Option Cache.Entry) (outstanding : Nat) (last : Option Fetch.Failure) : String :=
  if snapshot.isNone then ""
  else if 0 < outstanding then " refreshing..."
  else if last.isSome then " [stale]"
  else ""

/-- The heading says that the content is stale exactly if there is content, nobody waits for newer, and
the last outcome was a failure. -/
theorem ageMark_eq_stale_iff (snapshot : Option Cache.Entry) (outstanding : Nat)
    (last : Option Fetch.Failure) : ageMark snapshot outstanding last = " [stale]" ↔
      snapshot.isSome = true ∧ outstanding = 0 ∧ last.isSome = true := by
  unfold ageMark
  cases snapshot with
  | none => simp
  | some e =>
    cases last with
    | none => by_cases h : 0 < outstanding <;> simp [h]
    | some f => by_cases h : 0 < outstanding <;> simp [h] <;> omega

/-- What a page presents in a world: its binding with the outcomes applied to it, its data, the text in
place of the content, and its heading. -/
structure Presents (p : PageContent α) (read : Json → Except Decode.Mismatch α) (w : World) (b : Binding)
    (applied : List Fetch.Outcome) : Prop where
  bound : w.binding? p.binding = some b
  arrived : applied ++ b.inbox = w.outcomesOf p.binding
  data : p.data = b.snapshot.map fun e => read e.payload
  absent : p.data = none ↔ b.snapshot = none
  shows : p.placeholder? b = none ↔ ∃ e v, b.snapshot = some e ∧ read e.payload = .ok v
  unexpected : ∀ e m, b.snapshot = some e → read e.payload = .error m →
    p.placeholder? b = some ("Unexpected response shape: " ++ m.message .document)
  loading : b.snapshot = none → (p.placeholder? b = some "Loading..." ↔ 0 < w.outstanding p.binding b)
  failed : b.snapshot = none → w.outstanding p.binding b = 0 →
    ∃ e, lastFailure? applied = some e ∧ p.placeholder? b = some (failureText p.title e)
  heading : ∀ count, p.heading b count = " " ++ p.title ++
    contentLabel (b.snapshot.map fun e => read e.payload) (w.outstanding p.binding b) count ++
    ageMark b.snapshot (w.outstanding p.binding b) (lastFailure? applied) ++ " "
  stale : ageMark b.snapshot (w.outstanding p.binding b) (lastFailure? applied) = " [stale]" ↔
    b.snapshot.isSome = true ∧ w.outstanding p.binding b = 0 ∧ (lastFailure? applied).isSome = true

end PageContent

/-! ## The binding of a page that is there -/

namespace World.Follows

variable {w : World} {n : Nat} {b : Binding} {h : History}

theorem foregroundInFlight_eq (f : Follows w n b h) (live : h.gone = false) :
    b.foregroundInFlight = w.outstanding n b := (f.waiting live).symm

theorem isLoading_iff (f : Follows w n b h) (live : h.gone = false) :
    b.isLoading = true ↔ 0 < w.outstanding n b := by
  rw [← f.foregroundInFlight_eq live]
  simp [Binding.isLoading, f.shows.isMounted, live]

theorem error_eq (f : Follows w n b h) : b.error = lastFailure? h.applied := f.shows.error

/-- Without a snapshot all outcomes were failures, and the user has waited for one of them unless it is
still to come. -/
theorem failed_of_no_snapshot (f : Follows w n b h) (live : h.gone = false) (none : b.snapshot = none)
    (done : w.outstanding n b = 0) : b.state = .errorVisible ∧ ∃ e, lastFailure? h.applied = some e := by
  have hsnapshot : h.snapshot = Option.none := f.shows.snapshot.symm.trans none
  obtain ⟨hfailures, hcached⟩ := Option.or_eq_none_iff.1 hsnapshot
  have hall : ∀ o ∈ h.applied, o.failure?.isSome = true := by
    intro o ho
    rw [List.getLast?_eq_none_iff, List.filterMap_eq_nil_iff] at hfailures
    rw [o.isSome_failure?, hfailures o ho]
    rfl
  have hcount := f.shows.count
  rw [f.foregroundInFlight_eq live, done] at hcount
  have hpos : 0 < foregroundCount h.applied := by
    simp only [History.asked, hcached, Option.isNone_none, if_true] at hcount
    omega
  obtain ⟨o, ho, hforeground⟩ := List.countP_pos_iff.1 hpos
  constructor
  · have hfailed : h.hasFailed = true :=
      List.any_eq_true.2 ⟨o, ho, by simp [hforeground, hall o ho]⟩
    simp [f.shows.state, History.state, live, hsnapshot, hfailed]
  · cases hlast : h.applied.getLast? with
    | none =>
      rw [List.getLast?_eq_none_iff] at hlast
      rw [hlast] at ho
      cases ho
    | some last =>
      obtain ⟨e, he⟩ := Option.isSome_iff_exists.1 (hall last (List.mem_of_getLast? hlast))
      exact ⟨e, by rw [lastFailure?, hlast, Option.bind_some, he]⟩

end World.Follows

namespace PageContent

open World

variable {α : Type} {read : Json → Except Decode.Mismatch α} {w : World} {p : PageContent α} {b : Binding}

theorem head?_failureText (title : String) (e : Fetch.Failure) :
    (failureText title e).toList.head? = some 'F' := by
  have hstart : "Failed to load ".toList.head? = some 'F' := by decide
  unfold failureText
  rw [String.toList_append, String.toList_append, String.toList_append, String.toList_append,
    List.append_assoc, List.append_assoc, List.append_assoc, List.head?_append, hstart, Option.some_or]

theorem failureText_ne (title : String) (e : Fetch.Failure) {text : String}
    (h : text.toList.head? ≠ some 'F') : failureText title e ≠ text := by
  intro heq
  rw [← heq, head?_failureText] at h
  exact h rfl

/-- What the page of a live binding presents, if its data is decoded from the snapshot. -/
theorem presents {h : History} (bound : w.binding? p.binding = some b) (f : Follows w p.binding b h)
    (live : h.gone = false) (data : p.data = b.snapshot.map fun e => read e.payload) :
    p.Presents read w b h.applied := by
  have hloading : b.isLoading = decide (0 < w.outstanding p.binding b) := by
    rw [Bool.eq_iff_iff, decide_eq_true_iff]
    exact f.isLoading_iff live
  have herror := f.error_eq
  have hfailed := f.failed_of_no_snapshot live
  constructor
  · exact bound
  · exact f.arrived live
  · exact data
  · rw [data, Option.map_eq_none_iff]
  · rw [placeholder?_eq_none_iff, loaded?, data]
    cases b.snapshot with
    | none => simp
    | some e => cases hread : read e.payload <;> simp [hread]
  · intro e m he hread
    rw [placeholder?, data, he, Option.map_some, hread]
  · intro hnone
    simp only [placeholder?, data, hnone, Option.map_none, hloading, decide_eq_true_eq]
    split
    · next hyes => simp [hyes]
    · next hno =>
      obtain ⟨-, e, he⟩ := hfailed hnone (by omega)
      have hother : failureText p.title e ≠ "Loading..." := failureText_ne _ _ (by decide)
      simp only [herror, he, hno, iff_false]
      exact fun heq => hother (Option.some.inj heq)
  · intro hnone hdone
    obtain ⟨-, e, he⟩ := hfailed hnone hdone
    refine ⟨e, he, ?_⟩
    simp only [placeholder?, data, hnone, Option.map_none, hloading, hdone, Nat.lt_irrefl, decide_false,
      Bool.false_eq_true, if_false, herror, he]
    rfl
  · intro count
    cases hsnapshot : b.snapshot with
    | none =>
      simp only [heading, data, hsnapshot, Option.map_none, hloading, decide_eq_true_eq, contentLabel,
        ageMark, Option.isNone_none, if_true, Option.isSome_none, Bool.false_eq_true, if_false]
      by_cases hwaits : 0 < w.outstanding p.binding b
      · simp only [hwaits, if_true]
      · have hstate := (hfailed hsnapshot (by omega)).1
        simp only [hwaits, if_false, hstate, if_true]
    | some e =>
      simp only [heading, data, hsnapshot, Option.map_some, hloading, decide_eq_true_eq, contentLabel,
        ageMark, Option.isNone_some, Option.isSome_some, Bool.false_eq_true, if_true, if_false, herror]
      cases read e.payload <;> cases count <;> rfl
  · exact ageMark_eq_stale_iff _ _ _

/-- A page never says that there is no data without saying why. -/
theorem Presents.placeholder?_ne_noData {applied : List Fetch.Outcome} (s : p.Presents read w b applied) :
    p.placeholder? b ≠ some "No data." := by
  cases hsnapshot : b.snapshot with
  | none =>
    by_cases hwaits : 0 < w.outstanding p.binding b
    · rw [(s.loading hsnapshot).2 hwaits]
      decide
    · obtain ⟨e, -, he⟩ := s.failed hsnapshot (by omega)
      rw [he]
      exact fun h => failureText_ne p.title e (by decide) (Option.some.inj h)
  | some e =>
    cases hread : read e.payload with
    | ok v =>
      rw [s.shows.2 ⟨e, v, hsnapshot, hread⟩]
      exact nofun
    | error m =>
      rw [s.unexpected e m hsnapshot hread]
      intro h
      have hhead := congrArg (·.toList.head?) (Option.some.inj h)
      simp [String.toList_append] at hhead

end PageContent

end Lookout
