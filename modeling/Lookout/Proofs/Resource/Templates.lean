import Lookout.Proofs.Url.Authority
import Lookout.Resource.Basic

/-!
# Filled templates

A template is filled place by place. What stands beside the places stays as it is, so a filled template is
cut where the template is, wherever no place is cut.

* **`takeWhile_fillTemplate`** — the start of a filled template.
* **`splitAt_fillTemplate`** — its parts.
* **`isSafe_iff`** — the parts that no identifier makes stand for the parent.
* **`down_of_safe`** — a path with such parts does not climb.
-/

namespace Lookout.Resource

open Url

/-- The place for an identifier in a template. -/
def place : List Char := ['\x7b', 'i', 'd', '\x7d']

theorem fillTemplate_place (segment rest : List Char) :
    fillTemplate segment (place ++ rest) = segment ++ fillTemplate segment rest := rfl

/-- A character at which no place starts is kept. -/
theorem fillTemplate_cons {segment : List Char} {c : Char} {rest : List Char} (h : ¬ place <+: c :: rest) :
    fillTemplate segment (c :: rest) = c :: fillTemplate segment rest := by
  rw [fillTemplate]
  rintro rest' rfl rfl
  exact h (List.prefix_append place rest')

/-- What comes before the first brace is kept. -/
theorem fillTemplate_append (segment : List Char) {head : List Char} (plain : '\x7b' ∉ head) (rest : List Char) :
    fillTemplate segment (head ++ rest) = head ++ fillTemplate segment rest := by
  induction head with
  | nil => rfl
  | cons c head ih =>
    rw [List.cons_append, fillTemplate_cons, ih (fun h => plain (List.mem_cons_of_mem c h))]
    · rfl
    · intro hplace
      exact plain ((List.cons_prefix_cons.1 hplace).1 ▸ List.mem_cons_self)

/-- A template is gone through place by place and character by character. -/
theorem template_induction {P : List Char → Prop} (nil : P []) (placed : ∀ rest, P rest → P (place ++ rest))
    (char : ∀ c rest, ¬ place <+: c :: rest → P rest → P (c :: rest)) (t : List Char) : P t := by
  fun_induction fillTemplate [] t with
  | case1 rest ih => exact placed rest ih
  | case2 c rest hplace ih =>
    refine char c rest ?_ ih
    rintro ⟨behind, heq⟩
    obtain ⟨rfl, rfl⟩ := List.cons.inj heq
    exact hplace behind rfl rfl
  | case3 => exact nil

/-- What stands in a filled template comes from the segment or the template. -/
theorem mem_of_mem_fillTemplate {segment : List Char} {c : Char} (t : List Char)
    (h : c ∈ fillTemplate segment t) : c ∈ segment ∨ c ∈ t := by
  induction t using template_induction with
  | nil => cases h
  | placed rest ih =>
    rcases List.mem_append.1 h with h | h
    · exact .inl h
    · exact (ih h).imp_right (List.mem_append_right _)
  | char d rest hplace ih =>
    rw [fillTemplate_cons hplace] at h
    rcases List.mem_cons.1 h with rfl | h
    · exact .inr List.mem_cons_self
    · exact (ih h).imp_right (List.mem_cons_of_mem d)

/-- Without a place nothing is filled. -/
theorem fillTemplate_of_placeless {segment t : List Char} (h : ¬ place <:+: t) : fillTemplate segment t = t := by
  induction t using template_induction with
  | nil => rfl
  | placed rest ih => exact absurd (List.prefix_append place rest).isInfix h
  | char c rest hplace ih =>
    rw [fillTemplate_cons hplace, ih fun hpart => h (List.infix_cons hpart)]

/-- What is put into a place is part of the filled template. -/
theorem infix_fillTemplate (segment : List Char) {t : List Char} (h : place <:+: t) :
    segment <:+: fillTemplate segment t := by
  induction t using template_induction with
  | nil => exact absurd (List.infix_nil.1 h) (by decide)
  | placed rest ih => exact (List.prefix_append segment _).isInfix
  | char c rest hplace ih =>
    rw [fillTemplate_cons hplace]
    exact List.infix_cons (ih ((List.infix_cons_iff.1 h).resolve_left hplace))

/-- A start of a template is filled as the template is, if it ends outside of places. -/
theorem takeWhile_fillTemplate {p : Char → Bool} {segment : List Char} (inSegment : ∀ c ∈ segment, p c = true)
    (inPlace : ∀ c ∈ place, p c = true) (t : List Char) :
    (fillTemplate segment t).takeWhile p = fillTemplate segment (t.takeWhile p) := by
  induction t using template_induction with
  | nil => rfl
  | placed rest ih =>
    rw [fillTemplate_place, List.takeWhile_append_of_pos inSegment, ih,
      List.takeWhile_append_of_pos inPlace, fillTemplate_place]
  | char c rest hplace ih =>
    rw [fillTemplate_cons hplace, List.takeWhile_cons, List.takeWhile_cons]
    split
    · rw [ih, fillTemplate_cons]
      exact fun h => hplace (h.trans (List.cons_prefix_cons.2 ⟨rfl, List.takeWhile_prefix p⟩))
    · rfl

/-- The parts of a filled template are the filled parts of the template. -/
theorem splitAt_fillTemplate {sep : Char → Bool} {segment : List Char} (inSegment : ∀ c ∈ segment, sep c = false)
    (inPlace : ∀ c ∈ place, sep c = false) (t : List Char) :
    splitAt sep (fillTemplate segment t) = (splitAt sep t).map (fillTemplate segment) := by
  induction t using template_induction with
  | nil => rfl
  | placed rest ih =>
    obtain ⟨part, parts, hsplit⟩ := List.exists_cons_of_ne_nil (splitAt_ne_nil sep rest)
    rw [hsplit, List.map_cons] at ih
    rw [fillTemplate_place, splitAt_append_plain inSegment ih, splitAt_append_plain inPlace hsplit,
      List.map_cons, fillTemplate_place]
  | char c rest hplace ih =>
    obtain ⟨part, parts, hsplit⟩ := List.exists_cons_of_ne_nil (splitAt_ne_nil sep rest)
    rw [hsplit, List.map_cons] at ih
    rw [fillTemplate_cons hplace, splitAt, ih, splitAt, hsplit]
    dsimp only
    split
    · rfl
    · rw [List.map_cons, fillTemplate_cons]
      exact fun h => hplace (h.trans (List.cons_prefix_cons.2 ⟨rfl, prefix_of_splitAt hsplit⟩))

/-! ## Identifiers as segments -/

/-- There are no blanks and no control characters in an identifier that is written as a segment. -/
theorem visible_encodeSegment (raw : List Char) : Visible (encodeSegment raw) := by
  intro c hc
  rw [isVisible, decide_eq_true_eq]
  by_contra hle
  have hset : inSegmentSet c = true := by
    by_cases hspace : c = ' '
    · subst hspace
      rfl
    · have hcontrol : c.toNat < 0x20 := by
        refine Nat.lt_of_le_of_ne (Nat.not_lt.1 hle) fun heq => hspace ?_
        exact Char.ext (UInt32.toNat_inj.1 heq)
      simp [inSegmentSet, inPathSet, inFragmentSet, isControl, hcontrol]
  refine not_mem_encodeSegment hset ?_ ?_ hc
  · rintro rfl
    exact hle (by decide)
  · rintro n hn rfl
    have hdigits : ∀ n < 16, 0x20 < (hexDigit n).toNat := by decide
    exact hle (hdigits n hn)

/-- No separator and no mark stands in an identifier that is written as a segment. -/
theorem stopless_encodeSegment (raw : List Char) : Stopless (encodeSegment raw) := by
  intro c hc
  rw [Bool.eq_false_iff]
  intro hstop
  simp only [isStop, Bool.or_eq_true, beq_iff_eq] at hstop
  rcases hstop with ((rfl | rfl) | rfl) | rfl
  all_goals exact not_mem_encodeSegment rfl (by decide) (by decide) hc

/-- A part of a template is safe if it does not stand for the parent whatever completes it. -/
def isSafe (s : List Char) : Bool :=
  completions.all fun w => !isDoubleDot ((fillTemplate w s).filter isVisible)

/-- A part is safe exactly if no identifier makes it stand for the parent. -/
theorem isSafe_iff (s : List Char) : isSafe s = true ↔
    ∀ raw, isDoubleDot ((fillTemplate (encodeSegment raw) s).filter isVisible) = false := by
  constructor
  · intro safe raw
    have hcompletions : ∀ w ∈ completions, isDoubleDot ((fillTemplate w s).filter isVisible) = false := by
      simpa [isSafe, List.all_eq_true] using safe
    by_cases hplace : place <:+: s
    · rw [Bool.eq_false_iff]
      intro h
      have hpart := (infix_fillTemplate (encodeSegment raw) hplace).filter isVisible
      rw [List.filter_eq_self.2 (visible_encodeSegment raw)] at hpart
      rw [hcompletions _ (mem_completions h hpart)] at h
      cases h
    · have hempty := hcompletions [] List.mem_cons_self
      rwa [fillTemplate_of_placeless hplace] at hempty ⊢
  · intro h
    have hwritten : ∀ w ∈ completions, encodeSegment w = w := by decide
    refine List.all_eq_true.2 fun w hw => ?_
    rw [← hwritten w hw, h w]
    rfl

/-- The parts of a filled path do not climb if those of the template are safe. -/
theorem down_of_safe {rest : List Char}
    (safe : ∀ s ∈ splitAt (isSeparator true) (spanPath rest).1, isSafe s = true) {raw cs : List Char}
    (same : cs.filter isVisible = (fillTemplate (encodeSegment raw) rest).filter isVisible) :
    ∀ s ∈ written (spanPath cs).1, isDoubleDot s = false := by
  have hstop (c : Char) (hc : c ∈ encodeSegment raw) : c ≠ '/' ∧ c ≠ '?' ∧ c ≠ '#' ∧ c ≠ '\\' := by
    simpa [isStop, and_assoc] using stopless_encodeSegment raw c hc
  have hpath : (spanPath (fillTemplate (encodeSegment raw) rest)).1 =
      fillTemplate (encodeSegment raw) (spanPath rest).1 :=
    takeWhile_fillTemplate (fun c hc => by simp [hstop c hc]) (by simp [place]) rest
  have hparts : splitAt (isSeparator true) (fillTemplate (encodeSegment raw) (spanPath rest).1) =
      (splitAt (isSeparator true) (spanPath rest).1).map (fillTemplate (encodeSegment raw)) :=
    splitAt_fillTemplate (fun c hc => by simp [isSeparator, hstop c hc]) (by simp [isSeparator, place]) _
  intro s hs
  obtain ⟨part, hpart, rfl⟩ := List.mem_map.1 hs
  rw [Bool.eq_false_iff]
  intro h
  have hdouble := isDoubleDot_of_encoded (by decide) h
  have hvisible : part.filter isVisible = part := by
    refine List.filter_eq_self.2 fun c hc => ?_
    have hmem := mem_of_isDoubleDot hdouble c hc
    simp only [List.mem_cons, List.not_mem_nil, or_false] at hmem
    rcases hmem with rfl | rfl | rfl | rfl | rfl <;> rfl
  have hmem : part.filter isVisible ∈
      (splitAt (isSeparator true) (spanPath cs).1).map (List.filter isVisible) := List.mem_map_of_mem hpart
  rw [← segments_filter, same, segments_filter, hpath, hparts, List.map_map, hvisible] at hmem
  obtain ⟨t, ht, rfl⟩ := List.mem_map.1 hmem
  rw [Function.comp_apply, (isSafe_iff t).1 (safe t ht) raw] at hdouble
  cases hdouble

end Lookout.Resource
