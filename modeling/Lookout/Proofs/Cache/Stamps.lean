import Lookout.Proofs.Cache.Attempts

/-!
# The stamps of a key

An entry is stamped with the time at which it is written, or with the stamp of the entry that it
replaces if that is later. The entry that it replaces is read from the storage first, and what cannot be
read counts as if nothing were there: an operation has failed, or the data nests too deep. So the stamps
of a key are in order as long as each write finds the entry of the one before, and a step back of the
calendar shows as soon as one does not.

* **`savedAt_attempt`** — the stamp that a write gives.
* **`filed_attempt`** — the entry that is filed after a write.
* **`returned_lt_iff`** — when the stamp of a write is earlier than that of the write before.
* **`pairwise_returned`** — the stamps that writes return are in order if each is read back.
-/

namespace Lookout.Cache

/-- The data is the same when it is printed and read again, and the time fits 64 bits. -/
structure Attempt.Sound (a : Attempt) : Prop where
  readable : Json.Readable a.payload
  time : IsStamp a.time

/-- The data can be read back once it has been stored. -/
def Attempt.Shallow (a : Attempt) : Prop := Json.depth a.payload ≤ payloadDepth

instance (a : Attempt) : Decidable a.Shallow := inferInstanceAs (Decidable (_ ≤ _))

/-- Whatever entry there was before, there is one that is no older after. -/
def NotOlder (before after : Option Entry) : Prop :=
  ∀ p, before = some p → ∃ e, after = some e ∧ p.savedAt ≤ e.savedAt

theorem NotOlder.refl (e : Option Entry) : NotOlder e e := fun p hp => ⟨p, hp, Int.le_refl _⟩

theorem NotOlder.trans {e f g : Option Entry} (h : NotOlder e f) (h' : NotOlder f g) :
    NotOlder e g := by
  intro p hp
  obtain ⟨q, hq, hpq⟩ := h p hp
  obtain ⟨r, hr, hqr⟩ := h' q hq
  exact ⟨r, hr, Int.le_trans hpq hqr⟩

variable {space key : String}

/-! ## One write -/

/-- What a write finds in the place of its key: what is filed, or nothing if it cannot be got. -/
theorem read_failing (s : Storage) (getFails setFails : Bool) :
    read space (s.failing getFails setFails) key = if getFails then none else filed space s key := by
  cases getFails with
  | true => rfl
  | false => exact read_congr rfl rfl

/-- The stamp that a write gives: the time of the write, or the stamp of what is filed if that is later
and can be got. -/
theorem savedAt_attempt (s : Storage) (a : Attempt) :
    (attempt space key s a).2.savedAt =
      match if a.getFails then none else filed space s key with
      | some previous => max a.time previous.savedAt
      | none => a.time := by
  have hfound : read space (s.failing a.getFails a.setFails) key =
      if a.getFails then none else filed space s key := read_failing s a.getFails a.setFails
  rw [← hfound]
  rfl

theorem savedAt_attempt_of_fails (s : Storage) {a : Attempt} (h : a.getFails = true) :
    (attempt space key s a).2.savedAt = a.time := by
  rw [savedAt_attempt, if_pos h]

theorem savedAt_attempt_of_filed {s : Storage} {a : Attempt} (h : a.getFails = false) {p : Entry}
    (hp : filed space s key = some p) :
    (attempt space key s a).2.savedAt = max a.time p.savedAt := by
  rw [savedAt_attempt, h, hp]
  rfl

theorem savedAt_attempt_of_none {s : Storage} (a : Attempt) (hp : filed space s key = none) :
    (attempt space key s a).2.savedAt = a.time := by
  rw [savedAt_attempt, hp]
  cases a.getFails <;> rfl

/-- The entry that is filed after a write: the one before if the write failed, and else the one that was
written, unless it nests too deep to be read. -/
theorem filed_attempt (s : Storage) {a : Attempt} (h : a.Sound) :
    filed space (attempt space key s a).1 key =
      if a.setFails then filed space s key
      else if a.Shallow then some (attempt space key s a).2 else none := by
  cases hset : a.setFails with
  | true =>
    have hslots : (attempt space key s a).1.slots = s.slots := by
      simp [attempt, write, Storage.set, Storage.failing, hset]
    rw [if_pos rfl]
    exact read_congr rfl (congrArg (List.lookup _) hslots)
  | false =>
    have hstamp : IsStamp (attempt space key s a).2.savedAt := isStamp_stamp _ _ _ _ h.time
    have hget : ((attempt space key s a).1.failing false false).get? (slotName space key) =
        some (storedText a.payload (attempt space key s a).2.savedAt) := by
      simp [attempt, write, stamp, Storage.set, Storage.get?, Storage.plant, Storage.failing, hset]
    have hread := readStored_storedText h.readable hstamp
    rw [if_neg Bool.false_ne_true, filed, read, hget]
    show (readStored _).map _ = if Json.depth a.payload ≤ payloadDepth then _ else _
    rw [hread]
    split <;> rfl

theorem filed_attempt_of_fails (s : Storage) {a : Attempt} (h : a.Sound) (fails : a.setFails = true) :
    filed space (attempt space key s a).1 key = filed space s key := by
  rw [filed_attempt s h, if_pos fails]

theorem filed_attempt_of_works (s : Storage) {a : Attempt} (h : a.Sound) (works : a.setFails = false)
    (shallow : a.Shallow) :
    filed space (attempt space key s a).1 key = some (attempt space key s a).2 := by
  rw [filed_attempt s h, works, if_neg Bool.false_ne_true, if_pos shallow]

theorem filed_attempt_of_deep (s : Storage) {a : Attempt} (h : a.Sound) (works : a.setFails = false)
    (deep : ¬ a.Shallow) : filed space (attempt space key s a).1 key = none := by
  rw [filed_attempt s h, works, if_neg Bool.false_ne_true, if_neg deep]

/-- The stamp that is filed goes back with a write exactly if what was filed could not be got, the write
worked, and the calendar has stepped back. -/
theorem filed_lt_iff {s : Storage} {a : Attempt} (h : a.Sound) {p : Entry}
    (hp : filed space s key = some p) :
    (∃ e, filed space (attempt space key s a).1 key = some e ∧ e.savedAt < p.savedAt) ↔
      a.getFails = true ∧ a.setFails = false ∧ a.Shallow ∧ a.time < p.savedAt := by
  cases hset : a.setFails with
  | true => simp [filed_attempt_of_fails s h hset, hp]
  | false =>
    by_cases hshallow : a.Shallow
    · rw [filed_attempt_of_works s h hset hshallow]
      cases hget : a.getFails with
      | true => simp [savedAt_attempt_of_fails s hget, hshallow]
      | false =>
        have hmax := savedAt_attempt_of_filed hget hp
        simp only [Option.some.injEq, exists_eq_left', Bool.false_eq_true, false_and, iff_false]
        omega
    · simp [filed_attempt_of_deep s h hset hshallow, hshallow]

/-- The stamp that a write returns is earlier than that of the write before exactly if the calendar has
stepped back and the entry before is not found: it cannot be got, or it was not stored and nothing as
late was, or it nests too deep to be read. -/
theorem returned_lt_iff (s : Storage) {a b : Attempt} (h : a.Sound) :
    (attempt space key (attempt space key s a).1 b).2.savedAt < (attempt space key s a).2.savedAt ↔
      b.time < (attempt space key s a).2.savedAt ∧
        (b.getFails = true ∨
          (a.setFails = true ∧
            ∀ p, filed space s key = some p → p.savedAt < (attempt space key s a).2.savedAt) ∨
          a.setFails = false ∧ ¬ a.Shallow) := by
  cases hget : b.getFails with
  | true => simp [savedAt_attempt_of_fails _ hget]
  | false =>
    cases hset : a.setFails with
    | true =>
      have hfiled : filed space (attempt space key s a).1 key = filed space s key :=
        filed_attempt_of_fails s h hset
      cases hp : filed space s key with
      | none =>
        rw [savedAt_attempt_of_none b (hfiled.trans hp)]
        simp
      | some p =>
        rw [savedAt_attempt_of_filed hget (hfiled.trans hp)]
        simp only [Bool.false_eq_true, true_and, false_or, Option.some.injEq, forall_eq',
          Bool.true_eq_false, false_and, or_false]
        omega
    | false =>
      by_cases hshallow : a.Shallow
      · rw [savedAt_attempt_of_filed hget (filed_attempt_of_works s h hset hshallow)]
        simp only [hshallow, Bool.false_eq_true, false_and, not_true_eq_false, and_false, or_false,
          iff_false]
        omega
      · rw [savedAt_attempt_of_none b (filed_attempt_of_deep s h hset hshallow)]
        simp [hshallow]

/-! ## Writes one after the other -/

/-- A write that finds what is filed leaves no older entry behind. -/
theorem notOlder_attempt (s : Storage) {a : Attempt} (h : a.Sound) (gets : a.getFails = false)
    (shallow : a.Shallow) :
    NotOlder (filed space s key) (filed space (attempt space key s a).1 key) := by
  intro p hp
  have hstays := filed_lt_iff h hp
  cases hset : a.setFails with
  | true => exact ⟨p, (filed_attempt_of_fails s h hset).trans hp, Int.le_refl _⟩
  | false =>
    have hfiled : filed space (attempt space key s a).1 key = some (attempt space key s a).2 :=
      filed_attempt_of_works s h hset shallow
    refine ⟨_, hfiled, ?_⟩
    simp only [hfiled, gets, Option.some.injEq, exists_eq_left', Bool.false_eq_true, false_and,
      iff_false] at hstays
    omega

/-- The stamp that is filed never goes back as long as what is filed is found. -/
theorem notOlder_attempts (s : Storage) {as : List Attempt} (sound : ∀ a ∈ as, a.Sound)
    (finds : ∀ a ∈ as, a.getFails = false ∧ a.Shallow) :
    NotOlder (filed space s key) (filed space (attempts space key s as) key) := by
  induction as generalizing s with
  | nil => exact NotOlder.refl _
  | cons a as ih =>
    obtain ⟨ha, has⟩ := List.forall_mem_cons.1 sound
    obtain ⟨hfind, hfinds⟩ := List.forall_mem_cons.1 finds
    exact (notOlder_attempt s ha hfind.1 hfind.2).trans (ih (attempt space key s a).1 has hfinds)

/-- No write returns an earlier stamp than what was filed before, as long as that is found. -/
theorem le_returned {s : Storage} {as : List Attempt} (sound : ∀ a ∈ as, a.Sound)
    (finds : ∀ a ∈ as, a.getFails = false ∧ a.Shallow) {p : Entry}
    (hp : filed space s key = some p) : ∀ e ∈ returned space key s as, p.savedAt ≤ e.savedAt := by
  induction as generalizing s p with
  | nil => exact List.forall_mem_nil _
  | cons a as ih =>
    obtain ⟨ha, has⟩ := List.forall_mem_cons.1 sound
    obtain ⟨hfind, hfinds⟩ := List.forall_mem_cons.1 finds
    obtain ⟨q, hq, hpq⟩ := notOlder_attempt s ha hfind.1 hfind.2 p hp
    refine List.forall_mem_cons.2 ⟨?_, ?_⟩
    · rw [savedAt_attempt_of_filed hfind.1 hp]
      exact Int.le_max_right _ _
    · intro e he
      exact Int.le_trans hpq (ih has hfinds hq e he)

/-- The stamps that writes return are in order if no operation fails and each entry can be read back. -/
theorem pairwise_returned (s : Storage) {as : List Attempt} (sound : ∀ a ∈ as, a.Sound)
    (works : ∀ a ∈ as, (a.getFails = false ∧ a.Shallow) ∧ a.setFails = false) :
    (returned space key s as).Pairwise (·.savedAt ≤ ·.savedAt) := by
  induction as generalizing s with
  | nil => exact List.Pairwise.nil
  | cons a as ih =>
    obtain ⟨ha, has⟩ := List.forall_mem_cons.1 sound
    obtain ⟨hwork, hworks⟩ := List.forall_mem_cons.1 works
    have hfiled : filed space (attempt space key s a).1 key = some (attempt space key s a).2 :=
      filed_attempt_of_works s ha hwork.2 hwork.1.2
    have hlater := le_returned has (fun b hb => (hworks b hb).1) hfiled
    exact List.Pairwise.cons hlater (ih (attempt space key s a).1 has hworks)

end Lookout.Cache
