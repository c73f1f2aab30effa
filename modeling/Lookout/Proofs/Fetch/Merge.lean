import Lookout.Fetch.Outcome
import Lookout.Proofs.Json.Shape

/-!
# The merged snapshot

What the answers of sections become: each section of a fetch that succeeds has its answer under its
name, or what it had before if its request failed, and the last of several sections of one name counts.

* **`get?_of_merge`** — the value under the name of a section.
* **`exists_of_mem_merge`** — every member of a snapshot comes from an answer.
-/

namespace Lookout.Fetch

/-- The value that an answer contributes to a snapshot. -/
def answerValue (previous : Option Json) (a : Section × Except Failure Json) : Json :=
  match a.2 with
  | .ok v => v
  | .error _ => previousValue previous a.1.name

/-- A snapshot takes the answers one after the other. -/
theorem mergeInto_cons {previous : Option Json} {fields out : List (String × Json)}
    {a : Section × Except Failure Json} {rest : List (Section × Except Failure Json)}
    (h : mergeInto previous fields (a :: rest) = .ok out) :
    mergeInto previous (Json.insertField a.1.name (answerValue previous a) fields) rest = .ok out ∧
      (a.1.isOptional = true ∨ ∃ v, a.2 = .ok v) := by
  obtain ⟨s, answer⟩ := a
  cases answer with
  | ok v => exact ⟨h, .inr ⟨v, rfl⟩⟩
  | error e =>
    rw [mergeInto] at h
    split at h
    · next optional => exact ⟨h, .inl optional⟩
    · cases h

theorem mergeInto_append {previous : Option Json} {fields out : List (String × Json)}
    {front back : List (Section × Except Failure Json)}
    (h : mergeInto previous fields (front ++ back) = .ok out) :
    ∃ middle, mergeInto previous fields front = .ok middle ∧
      mergeInto previous middle back = .ok out := by
  induction front generalizing fields with
  | nil => exact ⟨fields, rfl, h⟩
  | cons a front ih =>
    obtain ⟨hrest, hoptional⟩ := mergeInto_cons h
    obtain ⟨middle, hfront, hback⟩ := ih hrest
    refine ⟨middle, ?_, hback⟩
    obtain ⟨s, answer⟩ := a
    cases answer with
    | ok v => exact hfront
    | error e =>
      obtain hoptional | ⟨v, hv⟩ := hoptional
      · rw [mergeInto, if_pos hoptional]
        exact hfront
      · cases hv

/-- Sections of other names leave a member alone. -/
theorem lookup_mergeInto_of_ne {previous : Option Json} {name : String}
    {answers : List (Section × Except Failure Json)} (h : ∀ a ∈ answers, a.1.name ≠ name)
    {fields out : List (String × Json)} (hout : mergeInto previous fields answers = .ok out) :
    Json.lookup name out = Json.lookup name fields := by
  induction answers generalizing fields with
  | nil =>
    cases hout
    rfl
  | cons a rest ih =>
    have hrest := ih (fun b hb => h b (List.mem_cons_of_mem _ hb)) (mergeInto_cons hout).1
    rw [hrest, Json.lookup_insertField_of_ne (h a List.mem_cons_self).symm]

theorem merge_eq_ok {previous : Option Json} {answers : List (Section × Except Failure Json)}
    {payload : Json} (h : merge previous answers = .ok payload) :
    ∃ fields, mergeInto previous [] answers = .ok fields ∧ payload = .obj fields := by
  unfold merge at h
  cases hfields : mergeInto previous [] answers with
  | error e =>
    rw [hfields] at h
    cases h
  | ok fields =>
    rw [hfields] at h
    cases h
    exact ⟨fields, rfl, rfl⟩

/-- The value under the name of a section, if no later section has its name. -/
theorem get?_of_merge {previous : Option Json} {front back : List (Section × Except Failure Json)}
    {a : Section × Except Failure Json} (last : ∀ b ∈ back, b.1.name ≠ a.1.name) {payload : Json}
    (h : merge previous (front ++ a :: back) = .ok payload) :
    Json.get? a.1.name payload = some (answerValue previous a) := by
  obtain ⟨fields, hfields, rfl⟩ := merge_eq_ok h
  obtain ⟨middle, -, hback⟩ := mergeInto_append hfields
  have hlookup := lookup_mergeInto_of_ne last (mergeInto_cons hback).1
  rw [Json.get?, hlookup, Json.lookup_insertField_self]

/-- A request that failed in a fetch that succeeds is that of an optional section. -/
theorem isOptional_of_merge {previous : Option Json} {answers : List (Section × Except Failure Json)}
    {payload : Json} (h : merge previous answers = .ok payload) {s : Section} {e : Failure}
    (hs : (s, .error e) ∈ answers) : s.isOptional = true := by
  obtain ⟨front, back, rfl⟩ := List.append_of_mem hs
  obtain ⟨fields, hfields, -⟩ := merge_eq_ok h
  obtain ⟨middle, -, hback⟩ := mergeInto_append hfields
  obtain hoptional | ⟨v, hv⟩ := (mergeInto_cons hback).2
  · exact hoptional
  · cases hv

/-! ## The members of a snapshot -/

theorem mem_mergeInto {previous : Option Json} {answers : List (Section × Except Failure Json)}
    {fields out : List (String × Json)} (h : mergeInto previous fields answers = .ok out)
    {f : String × Json} (hf : f ∈ out) :
    f ∈ fields ∨ ∃ a ∈ answers, f = (a.1.name, answerValue previous a) := by
  induction answers generalizing fields with
  | nil =>
    cases h
    exact .inl hf
  | cons a rest ih =>
    rcases ih (mergeInto_cons h).1 with hmem | ⟨b, hb, heq⟩
    · rcases Json.mem_insertField hmem with heq | hmem
      · exact .inr ⟨a, List.mem_cons_self, heq⟩
      · exact .inl hmem
    · exact .inr ⟨b, List.mem_cons_of_mem _ hb, heq⟩

theorem increasing_mergeInto {previous : Option Json}
    {answers : List (Section × Except Failure Json)} {fields out : List (String × Json)}
    (h : mergeInto previous fields answers = .ok out) (hfields : Json.Increasing fields) :
    Json.Increasing out := by
  induction answers generalizing fields with
  | nil =>
    cases h
    exact hfields
  | cons a rest ih => exact ih (mergeInto_cons h).1 (hfields.insertField _ _)

/-- Every member of a snapshot comes from an answer. -/
theorem exists_of_mem_merge {previous : Option Json} {answers : List (Section × Except Failure Json)}
    {fields : List (String × Json)} (h : merge previous answers = .ok (.obj fields))
    {f : String × Json} (hf : f ∈ fields) :
    ∃ a ∈ answers, f = (a.1.name, answerValue previous a) := by
  obtain ⟨fields', hmerge, heq⟩ := merge_eq_ok h
  cases heq
  rcases mem_mergeInto hmerge hf with hf | hf
  · cases hf
  · exact hf

/-- A snapshot is in order if its values are. -/
theorem ordered_of_merge {previous : Option Json} {answers : List (Section × Except Failure Json)}
    {payload : Json} (h : merge previous answers = .ok payload)
    (hvalues : ∀ a ∈ answers, Json.Ordered (answerValue previous a)) : Json.Ordered payload := by
  obtain ⟨fields, hmerge, rfl⟩ := merge_eq_ok h
  refine ⟨increasing_mergeInto hmerge List.Pairwise.nil, ?_⟩
  rw [Json.orderedFields_iff]
  intro f hf
  obtain ⟨a, ha, rfl⟩ := exists_of_mem_merge h hf
  exact hvalues a ha

end Lookout.Fetch
