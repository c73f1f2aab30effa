import Lookout.Url.Parse
import Lookout.Url.PathSegment
import Mathlib.Data.List.Basic
import Mathlib.Data.List.Infix
import Mathlib.Data.List.Sections
import Mathlib.Data.List.TakeWhile

/-!
# Paths segment by segment

Where a written path is cut at a separator, its first part is walked first and the rest from there on. A
rest without parent segments stays behind the place from which it is walked, and percent encoding makes
no parent segments.

* **`resolveSegments_append`** — a path is walked part by part.
* **`resolveSegments_down`** — without parent segments nothing of the start is left.
* **`isDoubleDot_of_encoded`** — a written segment stands for the parent only if it did before encoding.
-/

namespace Lookout.Url

/-! ## Cutting at separators -/

theorem splitAt_ne_nil (sep : Char → Bool) (cs : List Char) : splitAt sep cs ≠ [] := by
  cases cs with
  | nil => simp [splitAt]
  | cons c rest =>
    rw [splitAt]
    split
    · simp
    · split <;> simp

/-- A separator ends a part, wherever it stands. -/
theorem splitAt_append {sep : Char → Bool} {s : Char} (isSep : sep s = true) (a b : List Char) :
    splitAt sep (a ++ s :: b) = splitAt sep a ++ splitAt sep b := by
  induction a with
  | nil =>
    obtain ⟨part, parts, hparts⟩ := List.exists_cons_of_ne_nil (splitAt_ne_nil sep b)
    simp [splitAt, hparts, isSep]
  | cons c a ih =>
    obtain ⟨part, parts, hparts⟩ := List.exists_cons_of_ne_nil (splitAt_ne_nil sep a)
    rw [List.cons_append, splitAt, ih, hparts, splitAt, hparts]
    simp only [List.cons_append]
    split <;> rfl

/-- Text without separators goes to the first part. -/
theorem splitAt_append_plain {sep : Char → Bool} {a : List Char} (plain : ∀ c ∈ a, sep c = false)
    {b part : List Char} {parts : List (List Char)} (h : splitAt sep b = part :: parts) :
    splitAt sep (a ++ b) = (a ++ part) :: parts := by
  induction a with
  | nil => exact h
  | cons c a ih =>
    have hc := plain c List.mem_cons_self
    rw [List.cons_append, splitAt, ih fun c hc => plain c (List.mem_cons_of_mem _ hc)]
    simp [hc]

theorem prefix_of_splitAt {sep : Char → Bool} {cs part : List Char} {parts : List (List Char)}
    (h : splitAt sep cs = part :: parts) : part <+: cs := by
  induction cs generalizing part parts with
  | nil =>
    obtain ⟨rfl, -⟩ := List.cons.inj h
    exact List.prefix_rfl
  | cons c cs ih =>
    obtain ⟨first, rest, hsplit⟩ := List.exists_cons_of_ne_nil (splitAt_ne_nil sep cs)
    rw [splitAt, hsplit] at h
    dsimp only at h
    split at h
    · obtain ⟨rfl, -⟩ := List.cons.inj h
      exact List.nil_prefix
    · obtain ⟨rfl, -⟩ := List.cons.inj h
      exact List.cons_prefix_cons.2 ⟨rfl, ih hsplit⟩

/-- Where characters are taken out that are no separators, they are taken out of the parts. -/
theorem splitAt_filter {sep p : Char → Bool} (kept : ∀ c, p c = false → sep c = false) (cs : List Char) :
    splitAt sep (cs.filter p) = (splitAt sep cs).map (List.filter p) := by
  induction cs with
  | nil => rfl
  | cons c cs ih =>
    obtain ⟨part, parts, hsplit⟩ := List.exists_cons_of_ne_nil (splitAt_ne_nil sep cs)
    rw [hsplit, List.map_cons] at ih
    cases hc : p c with
    | false => simp [splitAt, hc, kept c hc, hsplit, ih]
    | true =>
      rw [List.filter_cons_of_pos hc, splitAt, ih, splitAt, hsplit]
      dsimp only
      split
      · rfl
      · rw [List.map_cons, List.filter_cons_of_pos hc]

/-! ## Walking -/

/-- The path after a segment that is not the last one. -/
def enter (path : List (List Char)) (segment : List Char) : List (List Char) :=
  if isDoubleDot segment then path.dropLast
  else if isSingleDot segment then path
  else path ++ [segment]

/-- A path is walked part by part. -/
theorem resolveSegments_append (path first : List (List Char)) {last : List (List Char)}
    (goesOn : last ≠ []) :
    resolveSegments path (first ++ last) = resolveSegments (first.foldl enter path) last := by
  induction first generalizing path with
  | nil => rfl
  | cons s first ih =>
    have hmore : (first ++ last).isEmpty = false := by simp [goesOn]
    rw [List.cons_append, resolveSegments, hmore, List.foldl_cons, enter]
    simp only [Bool.false_eq_true, if_false]
    split
    · exact ih _
    · split <;> exact ih _

/-- Without parent segments nothing of the start is left, and something is added. -/
theorem resolveSegments_down {added : List (List Char)} (path : List (List Char))
    (down : ∀ s ∈ added, isDoubleDot s = false) (some : added ≠ []) :
    ∃ more, more ≠ [] ∧ resolveSegments path added = path ++ more := by
  induction added generalizing path with
  | nil => exact absurd rfl some
  | cons s rest ih =>
    have hs := down s List.mem_cons_self
    have hrest : ∀ t ∈ rest, isDoubleDot t = false := fun t ht => down t (List.mem_cons_of_mem s ht)
    rw [resolveSegments, hs]
    simp only [Bool.false_eq_true, if_false]
    by_cases hlast : rest = []
    · subst hlast
      split
      · exact ⟨[[]], by simp, rfl⟩
      · exact ⟨[s], by simp, rfl⟩
    · have hmore : rest.isEmpty = false := by simpa using hlast
      rw [hmore]
      simp only [Bool.false_eq_true, if_false]
      split
      · exact ih path hrest hlast
      · obtain ⟨more, -, heq⟩ := ih (path ++ [s]) hrest hlast
        exact ⟨s :: more, by simp, by simpa using heq⟩

/-- Without parent segments the text of the path still starts with that of the start. -/
theorem prefix_resolveSegments {added : List (List Char)} (path : List (List Char))
    (down : ∀ s ∈ added, isDoubleDot s = false) (some : added ≠ []) :
    (Path.segments (path ++ [[]])).text <+: (Path.segments (resolveSegments path added)).text := by
  obtain ⟨more, hmore, hpath⟩ := resolveSegments_down path down some
  obtain ⟨first, rest, rfl⟩ := List.exists_cons_of_ne_nil hmore
  refine ⟨first ++ rest.flatMap ('/' :: ·), ?_⟩
  rw [hpath]
  simp [Path.text]

/-- The segments of a written path. -/
def written (cs : List Char) : List (List Char) :=
  (splitAt (isSeparator true) cs).map (percentEncode inPathSet)

theorem written_ne_nil (cs : List Char) : written cs ≠ [] := by
  simp [written, splitAt_ne_nil]

theorem readPath_eq (start : List (List Char)) (cs : List Char) :
    readPath true start cs = resolveSegments start (written cs) := rfl

/-- The character is neither a blank nor one of the control characters before it. -/
def isVisible (c : Char) : Bool := 0x20 < c.toNat

/-- The segments of a path from which blanks are taken out are its segments without them. -/
theorem segments_filter (cs : List Char) : splitAt (isSeparator true) (spanPath (cs.filter isVisible)).1 =
    (splitAt (isSeparator true) (spanPath cs).1).map (List.filter isVisible) := by
  have hstays (c : Char) (h : isVisible c = false) (d : Char) (hd : isVisible d = true) : (c == d) = false := by
    rw [beq_eq_false_iff_ne]
    rintro rfl
    cases h.symm.trans hd
  have hpath : (spanPath (cs.filter isVisible)).1 = (spanPath cs).1.filter isVisible := by
    rw [spanPath, List.takeWhile_filter]
    refine congrArg (fun p => (cs.takeWhile p).filter isVisible) (funext fun c => ?_)
    cases hc : isVisible c with
    | false => simp [bne, hstays c hc '?' (by decide), hstays c hc '#' (by decide)]
    | true => rfl
  rw [hpath]
  refine splitAt_filter (fun c hc => ?_) _
  rw [isSeparator, hstays c hc '/' (by decide), hstays c hc '\\' (by decide)]
  rfl

/-- A separator cuts a path in a part that is walked first and the rest. -/
theorem readPath_append {s : Char} (isSep : isSeparator true s = true) (start : List (List Char))
    (a b : List Char) :
    readPath true start (a ++ s :: b) = readPath true ((written a).foldl enter start) b := by
  rw [readPath_eq, written, splitAt_append isSep, List.map_append]
  exact resolveSegments_append start (written a) (written_ne_nil b)

/-! ## Encoding and dots -/

/-- A word of dots, written as they are or encoded, in lower case. -/
inductive DotWord : List Char → Prop
  | nil : DotWord []
  | dot {w : List Char} (h : DotWord w) : DotWord ('.' :: w)
  | encoded {w : List Char} (h : DotWord w) : DotWord ('%' :: '2' :: 'e' :: w)

/-- No other character than the dot is written with a byte that is the dot's. -/
theorem eq_dot_of_byte {c : Char} {b : UInt8} {bs : List UInt8} (h : String.utf8EncodeChar c = b :: bs)
    (hb : b.toNat = 46) : c = '.' := by
  have hfirst : c.val.toNat = 46 := by
    unfold String.utf8EncodeChar at h
    dsimp only at h
    split at h
    · obtain ⟨rfl, -⟩ := List.cons.inj h
      rw [UInt8.toNat_ofNat'] at hb
      omega
    · -- The first byte of several is none of a single character.
      split at h
      · obtain ⟨rfl, -⟩ := List.cons.inj h
        rw [UInt8.toNat_ofNat'] at hb
        omega
      · split at h <;>
        · obtain ⟨rfl, -⟩ := List.cons.inj h
          rw [UInt8.toNat_ofNat'] at hb
          omega
  exact Char.ext (UInt32.toNat_inj.1 hfirst)

/-- What is written for an encoded character does not start an encoded dot. -/
theorem encoded_ne_dot {c : Char} (h : c ≠ '.') {w rest : List Char} :
    ((String.utf8EncodeChar c).flatMap percentByte).map Char.toLower ++ rest ≠ '%' :: '2' :: 'e' :: w := by
  intro heq
  obtain ⟨b, bs, hbytes⟩ := List.exists_cons_of_ne_nil (String.utf8EncodeChar_ne_nil (c := c))
  rw [hbytes, List.flatMap_cons, percentByte] at heq
  simp only [List.cons_append, List.nil_append, List.map_cons, List.cons.injEq] at heq
  obtain ⟨-, htens, hones, -⟩ := heq
  have hdigits : ∀ n < 16, ((hexDigit n).toLower = '2' → n = 2) ∧ ((hexDigit n).toLower = 'e' → n = 14) := by
    decide
  have hsmall := b.toNat_lt
  have htens := (hdigits _ (by omega)).1 htens
  have hones := (hdigits _ (by omega)).2 hones
  exact h (eq_dot_of_byte hbytes (by omega))

theorem percentEncode_cons (set : Char → Bool) (c : Char) (cs : List Char) : percentEncode set (c :: cs) =
    (if set c then (String.utf8EncodeChar c).flatMap percentByte else [c]) ++ percentEncode set cs := by
  rw [percentEncode, List.flatMap_cons]
  rfl

theorem percentEncode_of_plain {set : Char → Bool} {cs : List Char} (plain : ∀ c ∈ cs, set c = false) :
    percentEncode set cs = cs := by
  induction cs with
  | nil => rfl
  | cons c rest ih =>
    rw [percentEncode_cons, plain c List.mem_cons_self, ih fun d hd => plain d (List.mem_cons_of_mem c hd)]
    rfl

/-- In a word of dots a percent sign starts an encoded dot. -/
theorem encoded_of_percent {w : List Char} (dots : DotWord w) {before behind : List Char}
    (h : w = before ++ '%' :: behind) : ∃ rest, behind = '2' :: 'e' :: rest := by
  induction dots generalizing before with
  | nil => simp at h
  | dot dots ih =>
    cases before with
    | nil => cases (List.cons.inj h).1
    | cons c before => exact ih (List.cons.inj h).2
  | @encoded w dots ih =>
    -- The percent sign is the first character, or it stands behind the first three.
    cases before with
    | nil => exact ⟨w, (List.cons.inj h).2.symm⟩
    | cons c before =>
      replace h := (List.cons.inj h).2
      cases before with
      | nil => cases (List.cons.inj h).1
      | cons c before =>
        replace h := (List.cons.inj h).2
        cases before with
        | nil => cases (List.cons.inj h).1
        | cons c before => exact ih (List.cons.inj h).2

theorem dotWord_of_isDoubleDot {s : List Char} (h : isDoubleDot s = true) :
    s.map Char.toLower ∈ ["..".toList, ".%2e".toList, "%2e.".toList, "%2e%2e".toList] ∧
      DotWord (s.map Char.toLower) := by
  simp only [isDoubleDot, List.contains_iff_mem, List.mem_cons, List.not_mem_nil, or_false,
    ← String.toList_inj, String.toList_ofList] at h
  refine ⟨by simpa only [List.mem_cons, List.not_mem_nil, or_false] using h, ?_⟩
  rcases h with h | h | h | h <;> rw [h]
  · exact .dot (.dot .nil)
  · exact .dot (.encoded .nil)
  · exact .encoded (.dot .nil)
  · exact .encoded (.encoded .nil)

/-- Where an encoded text is a part of a parent segment, nothing in it was encoded, if dots are not. -/
theorem plain_of_part {set : Char → Bool} (keeps : set '.' = false) {cs s : List Char}
    (h : isDoubleDot s = true) (part : percentEncode set cs <:+: s) : ∀ c ∈ cs, set c = false := by
  intro c hc
  by_contra hset
  rw [Bool.not_eq_false] at hset
  have hdot : c ≠ '.' := by
    rintro rfl
    cases keeps.symm.trans hset
  obtain ⟨before, behind, rfl⟩ := List.append_of_mem hc
  obtain ⟨x, y, rfl⟩ := part
  have hdots := (dotWord_of_isDoubleDot h).2
  obtain ⟨b, bs, hbytes⟩ := List.exists_cons_of_ne_nil (String.utf8EncodeChar_ne_nil (c := c))
  rw [percentEncode_append, percentEncode_cons, hset, if_pos rfl] at hdots
  obtain ⟨digits, hdigits⟩ : ∃ digits,
      ((String.utf8EncodeChar c).flatMap percentByte).map Char.toLower = '%' :: digits := by
    rw [hbytes, List.flatMap_cons, percentByte]
    exact ⟨_, rfl⟩
  have hsplit : (x ++ (percentEncode set before ++ ((String.utf8EncodeChar c).flatMap percentByte ++
      percentEncode set behind)) ++ y).map Char.toLower = (x ++ percentEncode set before).map Char.toLower ++
        '%' :: (digits ++ (percentEncode set behind ++ y).map Char.toLower) := by
    simp only [List.map_append, List.append_assoc, hdigits, List.cons_append]
  obtain ⟨rest, hrest⟩ := encoded_of_percent hdots hsplit
  have hencoded : ((String.utf8EncodeChar c).flatMap percentByte).map Char.toLower ++
      (percentEncode set behind ++ y).map Char.toLower = '%' :: '2' :: 'e' :: rest := by
    rw [hdigits, List.cons_append, hrest]
  exact encoded_ne_dot hdot hencoded

/-- A written segment stands for the parent only if it did before encoding. -/
theorem isDoubleDot_of_encoded {set : Char → Bool} (keeps : set '.' = false) {s : List Char}
    (h : isDoubleDot (percentEncode set s) = true) : isDoubleDot s = true := by
  have hplain := plain_of_part keeps h List.infix_rfl
  rwa [percentEncode_of_plain hplain] at h

/-! ## Encoded parts of parent segments -/

theorem ascii_or_toLower_eq (c : Char) : (∃ n < 128, c = Char.ofNat n) ∨ c.toLower = c := by
  by_cases hsmall : c.toNat < 128
  · exact .inl ⟨c.toNat, hsmall, (Char.ofNat_toNat c).symm⟩
  · refine .inr ?_
    unfold Char.toLower
    rw [dif_neg]
    rintro ⟨-, hle⟩
    exact hsmall (Nat.lt_of_le_of_lt (UInt32.le_iff_toNat_le.1 hle) (by decide))

/-- Only the letter of an encoded dot is written in two ways. -/
theorem eq_of_toLower {c d : Char} (h : c.toLower = d) (mem : d ∈ ['.', '%', '2', 'e']) :
    c = d ∨ c = 'E' ∧ d = 'e' := by
  rcases ascii_or_toLower_eq c with ⟨n, hn, rfl⟩ | hlower
  · have hascii : ∀ n < 128, (Char.ofNat n).toLower = d → Char.ofNat n = d ∨ Char.ofNat n = 'E' ∧ d = 'e' := by
      simp only [List.mem_cons, List.not_mem_nil, or_false] at mem
      rcases mem with rfl | rfl | rfl | rfl <;> decide
    exact hascii n hn h
  · exact .inl (hlower.symm.trans h)

/-- A text is one of the spellings of its lower-case form. -/
theorem mem_spellings {s : List Char} (letters : s.map Char.toLower ⊆ ['.', '%', '2', 'e']) :
    s ∈ ((s.map Char.toLower).map fun d => [d, d.toUpper]).sections := by
  rw [List.mem_sections, List.forall₂_map_right_iff, List.forall₂_map_right_iff, List.forall₂_same]
  intro c hc
  rcases eq_of_toLower rfl (letters (List.mem_map_of_mem hc)) with heq | ⟨rfl, -⟩
  · exact List.mem_cons.2 (.inl heq)
  · decide

/-- In a parent segment there are dots, percent signs and digits of encoded dots only. -/
theorem mem_of_isDoubleDot {s : List Char} (h : isDoubleDot s = true) :
    ∀ c ∈ s, c ∈ ['.', '%', '2', 'e', 'E'] := by
  intro c hc
  have hwords : ∀ w ∈ ["..".toList, ".%2e".toList, "%2e.".toList, "%2e%2e".toList],
      w ⊆ ['.', '%', '2', 'e'] := by
    decide
  have hlower := hwords _ (dotWord_of_isDoubleDot h).1 (List.mem_map_of_mem hc)
  rcases eq_of_toLower rfl hlower with heq | ⟨rfl, -⟩
  · have hmem : c ∈ ['.', '%', '2', 'e'] := by
      rw [heq]
      exact hlower
    exact List.mem_append_left ['E'] hmem
  · decide

/-- The texts that are written as a segment without change and are part of a parent segment. -/
def completions : List (List Char) :=
  [[], ['2'], ['e'], ['E'], ['2', 'e'], ['2', 'E'], ['e', '.'], ['E', '.'], ['2', 'e', '.'], ['2', 'E', '.']]

/-- Of what is written as one segment, only these texts are part of a parent segment. -/
theorem mem_completions {raw s : List Char} (h : isDoubleDot s = true) (part : encodeSegment raw <:+: s) :
    encodeSegment raw ∈ completions := by
  unfold encodeSegment at part ⊢
  dsimp only at part ⊢
  split at part
  · next hdots =>
    rw [if_pos hdots]
    exact List.mem_cons_self
  · next hdots =>
    rw [if_neg hdots]
    generalize raw.filter (!isIgnored ·) = kept at part hdots ⊢
    have hplain := plain_of_part (by decide) h part
    rw [percentEncode_of_plain hplain] at part ⊢
    have hpercent : '%' ∉ kept := fun hmem => absurd (hplain _ hmem) (by decide)
    have hwords : ∀ w ∈ ["..".toList, ".%2e".toList, "%2e.".toList, "%2e%2e".toList],
        ∀ u ∈ w.tails.flatMap List.inits, '%' ∈ u ∨ u ∈ [['.'], ['.', '.'], [], ['2'], ['e'], ['2', 'e'],
          ['e', '.'], ['2', 'e', '.']] := by
      decide
    have hlower : kept.map Char.toLower ∈ (s.map Char.toLower).tails.flatMap List.inits := by
      obtain ⟨t, hprefix, hsuffix⟩ := List.infix_iff_prefix_suffix.1 (part.map Char.toLower)
      exact List.mem_flatMap.2 ⟨t, (List.mem_tails _ _).2 hsuffix, (List.mem_inits _ _).2 hprefix⟩
    rcases hwords _ (dotWord_of_isDoubleDot h).1 _ hlower with hmem | hmem
    · obtain ⟨c, hc, heq⟩ := List.mem_map.1 hmem
      rcases eq_of_toLower heq (by decide) with rfl | ⟨-, hletter⟩
      · exact absurd hc hpercent
      · cases hletter
    · have hspellings : ∀ w ∈ [['.'], ['.', '.'], [], ['2'], ['e'], ['2', 'e'], ['e', '.'], ['2', 'e', '.']],
          w ⊆ ['.', '%', '2', 'e'] ∧ ∀ u ∈ (w.map fun d => [d, d.toUpper]).sections,
            (u = ['.'] ∨ u = ['.', '.']) ∨ u ∈ completions := by
        decide
      obtain ⟨hletters, hspelled⟩ := hspellings _ hmem
      exact (hspelled kept (mem_spellings hletters)).resolve_left (by simpa using hdots)

end Lookout.Url
