import Lookout.Proofs.Fetch.Merge
import Lookout.Proofs.World.Effects
import Mathlib.Data.List.Induction

/-!
# Answers as they arrive

A fetch asks all its sections at once. It has a place for each answer and waits until every place is
filled, whatever the answers are and in whatever order they arrive; then it merges them in the order of
the sections. A required section that failed fails all, the first of them in the list first; else the
snapshot has exactly the names of the sections.

* **`gathered?_eq`** — a fetch has its result with the last answer, not before.
* **`isSnapshot_of_merge`** — the members of a snapshot.
* **`gathers_all`** — requests, arrivals and result of a fetch.
-/

namespace Lookout

namespace Fetch

/-! ## Places for the answers -/

/-- The requests of a fetch in the order of its sections, each with its answer if that has arrived. -/
abbrev Places := List (Section × Option (Except Failure Json))

/-- No answer has arrived yet. -/
def Places.asking (sections : List Section) : Places := sections.map (·, none)

/-- The answers, if all have arrived. -/
def Places.answers? : Places → Option (List (Section × Except Failure Json))
  | [] => some []
  | (s, some r) :: rest => (answers? rest).map ((s, r) :: ·)
  | (_, none) :: _ => none

/-- The answer of a number arrives and takes its place. -/
def Places.arrive (answers : List (Section × Except Failure Json)) (p : Places) (i : Nat) : Places :=
  p.modify i fun place => (place.1, answers[i]?.map (·.2))

/-- The places after the answers of some numbers have arrived, in this order. -/
def gather (answers : List (Section × Except Failure Json)) (came : List Nat) : Places :=
  came.foldl (Places.arrive answers) (.asking (answers.map (·.1)))

/-- The result of a fetch after the answers of some numbers have arrived, if it has one then. -/
def gathered? (previous : Option Json) (answers : List (Section × Except Failure Json))
    (came : List Nat) : Option (Except Failure Json) :=
  (gather answers came).answers?.map (merge previous)

variable {previous : Option Json} {answers : List (Section × Except Failure Json)}

/-- A place is filled if its answer is among those that have arrived. -/
theorem getElem?_gather (answers : List (Section × Except Failure Json)) (came : List Nat) (i : Nat) :
    (gather answers came)[i]? =
      answers[i]?.map fun a => (a.1, if i ∈ came then some a.2 else none) := by
  induction came using List.reverseRecOn with
  | nil =>
    show (Places.asking (answers.map (·.1)))[i]? = _
    simp only [Places.asking, List.getElem?_map, Option.map_map, List.not_mem_nil, if_false]
    rfl
  | append_singleton came j ih =>
    have hlast : gather answers (came ++ [j]) = (gather answers came).arrive answers j :=
      List.foldl_concat ..
    rw [hlast, Places.arrive, List.getElem?_modify, ih]
    cases hanswer : answers[i]? with
    | none => rfl
    | some a =>
      by_cases same : j = i
      · subst same
        simp [hanswer]
      · have hmem : i ∈ came ++ [j] ↔ i ∈ came := by simp [Ne.symm same]
        simp [same, hmem]

theorem answers?_eq_some_iff (p : Places) (answers : List (Section × Except Failure Json)) :
    p.answers? = some answers ↔ p = answers.map fun a => (a.1, some a.2) := by
  induction p generalizing answers with
  | nil => cases answers <;> simp [Places.answers?]
  | cons place rest ih =>
    obtain ⟨s, none | r⟩ := place
    · cases answers <;> simp [Places.answers?]
    · cases answers with
      | nil => simp [Places.answers?]
      | cons a answers =>
        simp only [Places.answers?, Option.map_eq_some_iff, ih, List.map_cons, List.cons.injEq,
          Prod.mk.injEq, Option.some.injEq]
        constructor
        · rintro ⟨_, rfl, rfl, rfl⟩
          exact ⟨⟨rfl, rfl⟩, rfl⟩
        · rintro ⟨⟨rfl, rfl⟩, rfl⟩
          exact ⟨_, rfl, rfl, rfl⟩

/-- A fetch has its result as soon as the answers to all its requests have arrived, and not before: not
even if one of them has failed already. -/
theorem gathered?_eq (previous : Option Json) (answers : List (Section × Except Failure Json))
    (came : List Nat) : gathered? previous answers came =
      if ∀ i < answers.length, i ∈ came then some (merge previous answers) else none := by
  split
  · next hall =>
    have hfilled : gather answers came = answers.map fun a => (a.1, some a.2) := by
      apply List.ext_getElem?
      intro i
      rw [getElem?_gather, List.getElem?_map]
      refine Option.map_congr fun a ha => ?_
      rw [if_pos (hall i (List.getElem?_eq_some_iff.1 ha).1)]
    rw [gathered?, (answers?_eq_some_iff _ _).2 hfilled]
    rfl
  · next hmissing =>
    cases hfilled : (gather answers came).answers? with
    | none => rw [gathered?, hfilled, Option.map_none]
    | some filled =>
      refine absurd (fun i hi => ?_) hmissing
      -- The place of an answer that has not arrived is empty, so the places are not filled.
      have hplace := getElem?_gather answers came i
      rw [(answers?_eq_some_iff _ _).1 hfilled, List.getElem?_map, List.getElem?_eq_getElem hi] at hplace
      obtain ⟨a, -, ha⟩ := Option.map_eq_some_iff.1 hplace
      have hsome := congrArg Prod.snd ha
      dsimp only at hsome
      split at hsome
      · assumption
      · cases hsome

/-- In whatever order the answers arrive, the last one brings the result. -/
theorem gathered?_of_perm {order : List Nat} (h : order.Perm (List.range answers.length))
    {came more : List Nat} (split : order = came ++ more) :
    gathered? previous answers came = if more = [] then some (merge previous answers) else none := by
  have hall : (∀ i < answers.length, i ∈ came) ↔ more = [] := by
    have hmem (i : Nat) : i ∈ came ++ more ↔ i < answers.length := by
      rw [← split, h.mem_iff, List.mem_range]
    have hnodup : (came ++ more).Nodup := split ▸ h.nodup_iff.2 List.nodup_range
    constructor
    · intro hcame
      rw [List.eq_nil_iff_forall_not_mem]
      intro i hi
      have hi' := hcame i ((hmem i).1 (List.mem_append_right _ hi))
      exact (List.nodup_append.1 hnodup).2.2 i hi' i hi rfl
    · rintro rfl i hi
      simpa using (hmem i).2 hi
  rw [gathered?_eq]
  simp only [hall]

/-! ## The law of the result -/

/-- The answer fails the fetch: its request has failed, and the section is required. -/
def IsFatal (a : Section × Except Failure Json) : Prop := a.1.isOptional = false ∧ ∃ e, a.2 = .error e

/-- An answer that does not fail the fetch is taken into the snapshot. -/
theorem mergeInto_of_not_isFatal {a : Section × Except Failure Json} (h : ¬ IsFatal a)
    (fields : List (String × Json)) (rest : List (Section × Except Failure Json)) :
    mergeInto previous fields (a :: rest) =
      mergeInto previous (Json.insertField a.1.name (answerValue previous a) fields) rest := by
  obtain ⟨s, r⟩ := a
  cases r with
  | ok body => rfl
  | error e =>
    have hoptional : s.isOptional = true := by
      cases hs : s.isOptional with
      | true => rfl
      | false => exact absurd ⟨hs, e, rfl⟩ h
    simp only [mergeInto, hoptional, if_true, answerValue]

theorem mergeInto_append_of_not_isFatal {front : List (Section × Except Failure Json)}
    (h : ∀ a ∈ front, ¬ IsFatal a) (fields : List (String × Json)) :
    ∃ middle, ∀ back, mergeInto previous fields (front ++ back) = mergeInto previous middle back := by
  induction front generalizing fields with
  | nil => exact ⟨fields, fun back => rfl⟩
  | cons a front ih =>
    obtain ⟨middle, hmiddle⟩ := ih (fun b hb => h b (List.mem_cons_of_mem _ hb))
      (Json.insertField a.1.name (answerValue previous a) fields)
    refine ⟨middle, fun back => ?_⟩
    rw [List.cons_append, mergeInto_of_not_isFatal (h a List.mem_cons_self), hmiddle]

/-- The first required section in the list that has failed gives a fetch its failure. -/
theorem merge_of_isFatal {front back : List (Section × Except Failure Json)} {s : Section} {e : Failure}
    (first : ∀ a ∈ front, ¬ IsFatal a) (required : s.isOptional = false) :
    merge previous (front ++ (s, .error e) :: back) = .error e := by
  obtain ⟨middle, hmiddle⟩ := mergeInto_append_of_not_isFatal first []
  rw [merge, hmiddle, mergeInto, required]
  rfl

/-- Members with the names of sections: each name once, and under the name of a section what the last
section of that name was answered, or what it had before if its request failed; null if it had
nothing. -/
structure IsSnapshot (previous : Option Json) (answers : List (Section × Except Failure Json))
    (fields : List (String × Json)) : Prop where
  increasing : Json.Increasing fields
  names (name : String) : name ∈ fields.map (·.1) ↔ ∃ a ∈ answers, a.1.name = name
  value {front back : List (Section × Except Failure Json)} {s : Section} {r : Except Failure Json} :
    answers = front ++ (s, r) :: back → (∀ b ∈ back, b.1.name ≠ s.name) →
    Json.lookup s.name fields = some (match r with
      | .ok body => body
      | .error _ => (previous.bind (Json.get? s.name)).getD .null)

/-- A name that some section has is that of a last one. -/
theorem exists_last {name : String} (h : ∃ a ∈ answers, a.1.name = name) :
    ∃ front a back, answers = front ++ a :: back ∧ a.1.name = name ∧
      ∀ b ∈ back, b.1.name ≠ name := by
  induction answers using List.reverseRecOn with
  | nil => simp at h
  | append_singleton answers a ih =>
    by_cases same : a.1.name = name
    · exact ⟨answers, a, [], rfl, same, List.forall_mem_nil _⟩
    · have hbefore : ∃ b ∈ answers, b.1.name = name := by
        obtain ⟨b, hb, hname⟩ := h
        rcases List.mem_append.1 hb with hb | hb
        · exact ⟨b, hb, hname⟩
        · rw [List.mem_singleton.1 hb] at hname
          exact absurd hname same
      obtain ⟨front, c, back, rfl, hname, hlast⟩ := ih hbefore
      refine ⟨front, c, back ++ [a], by simp, hname, ?_⟩
      intro b hb
      rcases List.mem_append.1 hb with hb | hb
      · exact hlast b hb
      · rw [List.mem_singleton.1 hb]
        exact same

/-- The members of a snapshot. -/
theorem isSnapshot_of_merge {fields : List (String × Json)}
    (h : merge previous answers = .ok (.obj fields)) : IsSnapshot previous answers fields := by
  have hvalue {front back : List (Section × Except Failure Json)} {a : Section × Except Failure Json}
      (heq : answers = front ++ a :: back) (last : ∀ b ∈ back, b.1.name ≠ a.1.name) :
      Json.lookup a.1.name fields = some (answerValue previous a) := by
    subst heq
    exact get?_of_merge last h
  constructor
  · obtain ⟨fields', hmerge, heq⟩ := merge_eq_ok h
    cases heq
    exact increasing_mergeInto hmerge List.Pairwise.nil
  · intro name
    constructor
    · intro hname
      obtain ⟨f, hf, rfl⟩ := List.mem_map.1 hname
      obtain ⟨a, ha, rfl⟩ := exists_of_mem_merge h hf
      exact ⟨a, ha, rfl⟩
    · intro hname
      obtain ⟨front, a, back, heq, rfl, last⟩ := exists_last hname
      exact List.mem_map_of_mem (f := Prod.fst) (Json.mem_of_lookup (hvalue heq last))
  · intro front back s r heq last
    rw [hvalue heq last]
    cases r <;> rfl

/-- A fetch without a failure of a required section has a snapshot. -/
theorem exists_isSnapshot (calm : ∀ a ∈ answers, ¬ IsFatal a) :
    ∃ fields, merge previous answers = .ok (.obj fields) ∧ IsSnapshot previous answers fields := by
  obtain ⟨fields, hfields⟩ := mergeInto_append_of_not_isFatal calm []
  have hmerge : merge previous answers = .ok (.obj fields) := by
    rw [merge, ← answers.append_nil, hfields]
    rfl
  exact ⟨fields, hmerge, isSnapshot_of_merge hmerge⟩

end Fetch

namespace World

/-! ## The requests of a fetch -/

/-- Servers can give any answers to the requests of a fetch, also to several for one path. -/
theorem exists_servers (w : World) (sections : List Section) (given : List Answer)
    (one : given.length = sections.length) :
    ∃ servers, ({ w with servers := servers }.ask sections).2 = sections.zip given := by
  induction sections generalizing w given with
  | nil => exact ⟨w.servers, rfl⟩
  | cons s rest ih =>
    cases given with
    | nil => simp at one
    | cons a given =>
      obtain ⟨servers, hservers⟩ := ih { w with asked := askedOf w.now s :: w.asked } given
        (Nat.succ.inj one)
      -- The first request has its own count, which no later request has.
      refine ⟨fun path count => if path = s.path ∧ count = w.askedCount s.path then a
        else servers path count, ?_⟩
      rw [ask, List.zip_cons_cons]
      dsimp only
      congr 1
      · exact congrArg (Prod.mk s) (if_pos ⟨rfl, rfl⟩)
      · rw [← hservers]
        refine ask_answers (fun _ _ => rfl) ?_
        intro t _ count le
        refine if_neg ?_
        rintro ⟨hpath, rfl⟩
        rw [hpath] at le
        simp [askedCount, askedOf] at le

/-! ## The time of the answers -/

/-- The numbers of the answers that arrive within a time. -/
def within (ms : Nat) (answers : List (Section × Answer)) : List Nat :=
  (List.range answers.length).filter fun i => answers[i]?.any (·.2.delay ≤ ms)

theorem longestDelay_le_iff (answers : List (Section × Answer)) (ms : Nat) :
    longestDelay answers ≤ ms ↔ ∀ a ∈ answers, a.2.delay ≤ ms := by
  have hfold : ∀ most, answers.foldl (fun most a => Nat.max most a.2.delay) most ≤ ms ↔
      most ≤ ms ∧ ∀ a ∈ answers, a.2.delay ≤ ms := by
    induction answers with
    | nil => simp
    | cons a rest ih =>
      intro most
      rw [List.foldl_cons, ih, List.forall_mem_cons]
      show max most a.2.delay ≤ ms ∧ _ ↔ _
      rw [Nat.max_le, and_assoc]
  rw [longestDelay, hfold]
  simp

/-- All answers have arrived within a time if the longest delay is no longer. -/
theorem forall_mem_within (answers : List (Section × Answer)) (ms : Nat) :
    (∀ i < answers.length, i ∈ within ms answers) ↔ longestDelay answers ≤ ms := by
  rw [longestDelay_le_iff, List.forall_mem_iff_getElem]
  refine forall_congr' fun i => forall_congr' fun hi => ?_
  simp [within, hi]

/-- A fetch makes exactly one request for every section, in their order and at one moment, and the servers
can give any answers to them. In whatever order the answers arrive, the fetch waits for all of them, even
if one of a required section has failed; with the last it has its result, if its time is not up before.
The result depends only on the sections, the answers to them and the snapshot before: it is the failure
of the first required section in the list that has failed, or the snapshot. -/
theorem gathers_all (w : World) (job : Job) :
    let asked := w.ask job.sections
    let answers := asked.2.map fun a => (a.1, a.2.result)
    (w.beginFetch job).1.asked = (job.sections.map (askedOf w.now)).reverse ++ w.asked ∧
    answers.map (·.1) = job.sections ∧
    (∀ given : List Answer, given.length = job.sections.length →
      ∃ servers, ({ w with servers := servers }.ask job.sections).2 = job.sections.zip given) ∧
    (∀ previous,
      (∀ order : List Nat, order.Perm (List.range job.sections.length) → ∀ came more,
        order = came ++ more →
          Fetch.gathered? previous answers came =
            if more = [] then some (Fetch.merge previous answers) else none) ∧
      (∀ ms, Fetch.gathered? previous answers (within ms asked.2) =
        if longestDelay asked.2 ≤ ms then some (Fetch.merge previous answers) else none) ∧
      (∀ front s e back, answers = front ++ (s, .error e) :: back → s.isOptional = false →
        (∀ a ∈ front, ¬ Fetch.IsFatal a) → Fetch.merge previous answers = .error e) ∧
      ((∀ a ∈ answers, ¬ Fetch.IsFatal a) →
        ∃ fields, Fetch.merge previous answers = .ok (.obj fields) ∧
          Fetch.IsSnapshot previous answers fields)) ∧
    (w.beginFetch job).2 =
      (let last := w.now + longestDelay asked.2
       let limit := sleepEnd w.now job.policy.timeout
       if last ≤ limit then (last, Fetch.merge (w.held job.policy.key) answers)
       else (limit, .error (.timeout job.policy.timeout))) := by
  intro asked answers
  have hsections : answers.map (·.1) = job.sections := map_fst_answersTo w job
  have hlength : answers.length = job.sections.length := by
    rw [← hsections, List.length_map (f := fun a : Section × Except Fetch.Failure Json => a.1)]
  refine ⟨asked_ask _ _, hsections, exists_servers w job.sections, ?_, ?_⟩
  · intro previous
    refine ⟨?_, ?_, ?_, Fetch.exists_isSnapshot⟩
    · intro order hperm came more hsplit
      exact Fetch.gathered?_of_perm (hlength ▸ hperm) hsplit
    · intro ms
      have hall := forall_mem_within asked.2 ms
      rw [Fetch.gathered?_eq, List.length_map]
      simp only [hall]
    · intro front s e back heq required first
      rw [heq]
      exact Fetch.merge_of_isFatal first required
  · rw [beginFetch_snd]
    rfl

end World

end Lookout
