import Lookout.Proofs.Json.Number
import Lookout.Proofs.Json.Shape

/-!
# Printing and reading back

The compact text of a document whose members are in order is read back as the same document, up to the
depth that the reader allows; a document that nests deeper is refused.

* **`readString_printed`** — a text in quotes is read back.
* **`readValue_print`** — a document is read back exactly if it does not nest too deep.
-/

namespace Lookout.Json

/-! ## Texts in quotes -/

theorem hexUnit?_hexByte : ∀ n < 32,
    hexUnit? '0' '0' (Nat.digitChar (n / 16)) (Nat.digitChar (n % 16)) = some n := by decide

/-- A control character written with four digits is read back. -/
theorem readString_hex (skipping : Bool) {n : Nat} (h : n < 32) (rest : List Char) :
    readString skipping ('\\' :: 'u' :: '0' :: '0' :: Nat.digitChar (n / 16) ::
        Nat.digitChar (n % 16) :: rest) =
      (readString skipping rest).map fun (s, r) => (Char.ofNat n :: s, r) := by
  have hhigh : isHighHalf n = false := by
    simp only [isHighHalf, Bool.and_eq_false_iff, decide_eq_false_iff_not]
    omega
  have hlow : isLowHalf n = false := by
    simp only [isLowHalf, Bool.and_eq_false_iff, decide_eq_false_iff_not]
    omega
  -- Four digits are read with the four of a second escape behind them, or alone.
  by_cases hpair : ∃ e f g i t, rest = '\\' :: 'u' :: e :: f :: g :: i :: t
  · obtain ⟨e, f, g, i, t, rfl⟩ := hpair
    rw [readString]
    simp [hexUnit?_hexByte n h, hhigh, hlow]
  · rw [readString]
    · simp [hexUnit?_hexByte n h, hhigh, hlow]
    · intro e f g i t heq
      exact hpair ⟨e, f, g, i, t, heq⟩

/-- The written form of a character is read back. -/
theorem readString_escapeChar (skipping : Bool) (c : Char) (rest : List Char) :
    readString skipping (escapeChar c ++ rest) =
      (readString skipping rest).map fun (s, r) => (c :: s, r) := by
  unfold escapeChar
  split
  · simp [readString]
  · simp [readString]
  · simp [readString]
  · simp [readString]
  · simp [readString]
  · simp [readString]
  · simp [readString]
  · next hquote hslash _ _ _ _ _ =>
    split
    · next hcontrol =>
      have hread := readString_hex skipping hcontrol rest
      rw [Char.ofNat_toNat] at hread
      simpa [hexByte] using hread
    · next hplain =>
      rw [List.singleton_append, readString, if_neg hplain]
      · exact hquote
      all_goals
        intros
        exact hslash ‹c = '\\'›

/-- A text in quotes is read back. -/
theorem readString_printed (skipping : Bool) (cs rest : List Char) :
    readString skipping (cs.flatMap escapeChar ++ '"' :: rest) = some (cs, rest) := by
  induction cs with
  | nil => simp [readString]
  | cons c cs ih =>
    rw [List.flatMap_cons, List.append_assoc, readString_escapeChar, ih]
    rfl

theorem skipBlanks_cons {c : Char} (h : isBlank c = false) (rest : List Char) :
    skipBlanks (c :: rest) = c :: rest := by
  simp [skipBlanks, h]

/-- The name of a member is read back with its colon. -/
theorem readName_printed (skipping : Bool) (name : String) (rest : List Char) :
    readName skipping (printString name ++ ':' :: rest) = some (name, rest) := by
  rw [readName, printString, List.cons_append, skipBlanks_cons (by decide), List.append_assoc,
    List.singleton_append]
  simp only [readString_printed]
  rw [skipBlanks_cons (by decide)]
  simp

/-! ## Documents that are read back -/

/-- The written form of a double-precision number is read as that number. -/
def ReadsBack (x : Binary64) : Prop :=
  ∃ finite : x.isFinite = true, readNumber x.text = some (.real x finite, [])

/-- A document in order whose double-precision numbers are read back. -/
structure Readable (v : Json) : Prop where
  ordered : Ordered v
  reals : ∀ x ∈ Json.reals v, ReadsBack x

theorem Readable.items {items : List Json} (h : Readable (.arr items)) : ∀ v ∈ items, Readable v := by
  intro v hv
  refine ⟨(orderedItems_iff items).1 h.ordered v hv, fun x hx => h.reals x ?_⟩
  exact (mem_realsItems_iff items x).2 ⟨v, hv, hx⟩

theorem Readable.fields {fields : List (String × Json)} (h : Readable (.obj fields)) :
    ∀ f ∈ fields, Readable f.2 := by
  intro f hf
  refine ⟨(orderedFields_iff fields).1 h.ordered.2 f hf, fun x hx => h.reals x ?_⟩
  exact (mem_realsFields_iff fields x).2 ⟨f, hf, hx⟩

/-! ## Numbers -/

/-- A character with which a number starts. -/
def StartsNumber (c : Char) : Prop := c = '-' ∨ c.isDigit = true

theorem StartsNumber.ne {c x : Char} (h : StartsNumber c) (hdigit : x.isDigit = false)
    (hminus : x ≠ '-') : c ≠ x := by
  rintro rfl
  rcases h with h | h
  · exact hminus h
  · rw [hdigit] at h
    cases h

theorem StartsNumber.isBlank {c : Char} (h : StartsNumber c) : isBlank c = false := by
  simp only [Json.isBlank, Bool.or_eq_false_iff, beq_eq_false_iff_ne]
  exact ⟨⟨⟨h.ne (by decide) (by decide), h.ne (by decide) (by decide)⟩,
    h.ne (by decide) (by decide)⟩, h.ne (by decide) (by decide)⟩

theorem readNumber_starts {cs : List Char} {p : Number × List Char} (h : readNumber cs = some p) :
    ∃ c t, cs = c :: t ∧ StartsNumber c := by
  cases cs with
  | nil => simp [readNumber, readMagnitude, spanDigits] at h
  | cons c t =>
    refine ⟨c, t, rfl, ?_⟩
    by_cases hminus : c = '-'
    · exact .inl hminus
    · refine .inr ?_
      by_contra hdigit
      unfold readNumber at h
      split at h
      · next heq => exact hminus (List.cons.inj heq).1
      · simp [readMagnitude, spanDigits, hdigit] at h

theorem readValue_number (skipping : Bool) (fuel d : Nat) {c : Char} (h : StartsNumber c)
    (t : List Char) :
    readValue skipping (fuel + 1) d (c :: t) =
      if skipping then (skipNumber (c :: t)).map fun r => (.null, r)
      else (readNumber (c :: t)).map fun (n, r) => (.num n, r) := by
  rw [readValue, skipBlanks_cons h.isBlank]
  split
  · next heq => exact absurd (List.cons.inj heq).1 (h.ne (by decide) (by decide))
  · next heq => exact absurd (List.cons.inj heq).1 (h.ne (by decide) (by decide))
  · next heq => exact absurd (List.cons.inj heq).1 (h.ne (by decide) (by decide))
  · next heq => exact absurd (List.cons.inj heq).1 (h.ne (by decide) (by decide))
  · next heq => exact absurd (List.cons.inj heq).1 (h.ne (by decide) (by decide))
  · next heq => exact absurd (List.cons.inj heq).1 (h.ne (by decide) (by decide))
  · rfl

/-- A printed number is read back whatever ends it. -/
theorem readNumber_printNumber {n : Number} (h : Readable (.num n)) {rest : List Char}
    (hrest : EndsNumber rest) : readNumber (printNumber n ++ rest) = some (n, rest) := by
  cases n with
  | whole n fits => exact readNumber_printInt fits hrest
  | real x finite =>
    obtain ⟨_, hx⟩ := h.reals x (by simp [Json.reals])
    simpa [printNumber] using readNumber_append hx hrest

/-- A printed document starts with a character that is neither a blank nor a closing bracket. -/
theorem print_starts {v : Json} (h : Readable v) :
    ∃ c t, print v = c :: t ∧ isBlank c = false ∧ c ≠ ']' := by
  cases v with
  | null => exact ⟨_, _, rfl, by decide, by decide⟩
  | bool b => cases b <;> exact ⟨_, _, rfl, by decide, by decide⟩
  | num n =>
    have hn := readNumber_printNumber h endsNumber_nil
    rw [List.append_nil] at hn
    obtain ⟨c, t, heq, hc⟩ := readNumber_starts hn
    exact ⟨c, t, by rw [print, heq], hc.isBlank, hc.ne (by decide) (by decide)⟩
  | str s => exact ⟨_, _, rfl, by decide, by decide⟩
  | arr items => exact ⟨_, _, rfl, by decide, by decide⟩
  | obj fields => exact ⟨_, _, rfl, by decide, by decide⟩

theorem printItems_starts {v : Json} (h : Readable v) (vs : List Json) :
    ∃ c t, printItems (v :: vs) = c :: t ∧ isBlank c = false ∧ c ≠ ']' := by
  obtain ⟨c, t, heq, hblank, hbracket⟩ := print_starts h
  cases vs with
  | nil => exact ⟨c, _, by rw [printItems, heq, List.cons_append], hblank, hbracket⟩
  | cons w vs => exact ⟨c, _, by rw [printItems, heq, List.cons_append], hblank, hbracket⟩

theorem printFields_starts (f : String × Json) (fs : List (String × Json)) :
    ∃ t, printFields (f :: fs) = '"' :: t := by
  obtain ⟨name, v⟩ := f
  cases fs with
  | nil => exact ⟨_, by rw [printFields, printString, List.cons_append]⟩
  | cons g fs => exact ⟨_, by rw [printFields, printString, List.cons_append]⟩

theorem readValue_print_num {n : Number} (h : Readable (.num n)) (fuel d : Nat) {rest : List Char}
    (hrest : EndsNumber rest) :
    readValue false (fuel + 1) d (print (.num n) ++ rest) = some (.num n, rest) := by
  have hread := readNumber_printNumber h hrest
  obtain ⟨c, t, heq, hc⟩ := readNumber_starts hread
  rw [print, heq, readValue_number false fuel d hc, ← heq, hread]
  rfl

/-! ## Lists and objects

The readers pass on one part of their fuel to each item and member, so that twice the length of the
printed text is enough at every level. -/

/-- With a bound on the number of parts, the three readers read printed documents back up to the depth
that they are allowed to go. -/
structure ReadsPrinted (fuel : Nat) : Prop where
  value : ∀ {v : Json}, Readable v → 2 * (print v).length ≤ fuel →
    ∀ (d : Nat) {rest : List Char}, EndsNumber rest →
      readValue false fuel d (print v ++ rest) = if depth v ≤ d then some (v, rest) else none
  items : ∀ {vs : List Json}, vs ≠ [] → (∀ v ∈ vs, Readable v) → 2 * (printItems vs).length < fuel →
    ∀ (d : Nat) (rest : List Char),
      readItems false fuel d (printItems vs ++ rest) =
        if depthItems vs ≤ d then some (vs, rest) else none
  fields : ∀ {fs : List (String × Json)}, fs ≠ [] → (∀ f ∈ fs, Readable f.2) →
    2 * (printFields fs).length < fuel → ∀ (d : Nat) (rest : List Char),
      readFields false fuel d (printFields fs ++ rest) =
        if depthFields fs ≤ d then some (fs, rest) else none

theorem readItems_print_of {fuel : Nat} (ih : ReadsPrinted fuel) {vs : List Json} (hne : vs ≠ [])
    (h : ∀ v ∈ vs, Readable v) (hfuel : 2 * (printItems vs).length < fuel + 1) (d : Nat)
    (rest : List Char) :
    readItems false (fuel + 1) d (printItems vs ++ rest) =
      if depthItems vs ≤ d then some (vs, rest) else none := by
  match vs, hne with
  | [v], _ =>
    have hv : Readable v := h v (by simp)
    simp only [printItems, List.length_append, List.length_singleton] at hfuel
    rw [printItems, List.append_assoc, List.singleton_append, readItems,
      ih.value hv (by omega) d (endsNumber_bracket rest)]
    simp only [depthItems, Nat.max_le, Nat.zero_le, and_true]
    by_cases hd : depth v ≤ d
    · simp [hd, skipBlanks_cons (by decide : isBlank ']' = false)]
    · simp [hd]
  | v :: w :: vs, _ =>
    have hv : Readable v := h v (by simp)
    simp only [printItems, List.length_append, List.length_cons] at hfuel
    have hrest : readItems false fuel d (printItems (w :: vs) ++ rest) = _ :=
      ih.items (by simp) (fun u hu => h u (List.mem_cons_of_mem _ hu)) (by omega) d rest
    rw [printItems, List.append_assoc, List.cons_append, readItems,
      ih.value hv (by omega) d (endsNumber_comma _)]
    rw [depthItems]
    by_cases hd : depth v ≤ d
    · simp only [Nat.max_le, hd, if_true, true_and, skipBlanks_cons (by decide : isBlank ',' = false), hrest]
      by_cases hds : depthItems (w :: vs) ≤ d
      · simp [hds]
      · simp [hds]
    · simp [hd]

theorem readFields_print_of {fuel : Nat} (ih : ReadsPrinted fuel) {fs : List (String × Json)}
    (hne : fs ≠ []) (h : ∀ f ∈ fs, Readable f.2) (hfuel : 2 * (printFields fs).length < fuel + 1)
    (d : Nat) (rest : List Char) :
    readFields false (fuel + 1) d (printFields fs ++ rest) =
      if depthFields fs ≤ d then some (fs, rest) else none := by
  match fs, hne with
  | [(name, v)], _ =>
    have hv : Readable v := h (name, v) (by simp)
    simp only [printFields, List.length_append, List.length_cons, List.length_nil] at hfuel
    rw [printFields, List.append_assoc, List.cons_append, List.append_assoc, List.singleton_append,
      readFields, readName_printed]
    dsimp only
    rw [ih.value hv (by omega) d (endsNumber_brace rest)]
    simp only [depthFields, Nat.max_le, Nat.zero_le, and_true]
    by_cases hd : depth v ≤ d
    · simp [hd, skipBlanks_cons (by decide : isBlank '\x7d' = false)]
    · simp [hd]
  | (name, v) :: f :: fs, _ =>
    have hv : Readable v := h (name, v) (by simp)
    simp only [printFields, List.length_append, List.length_cons] at hfuel
    have hrest : readFields false fuel d (printFields (f :: fs) ++ rest) = _ :=
      ih.fields (by simp) (fun g hg => h g (List.mem_cons_of_mem _ hg)) (by omega) d rest
    rw [printFields, List.append_assoc, List.cons_append, List.append_assoc, List.cons_append,
      readFields, readName_printed]
    dsimp only
    rw [ih.value hv (by omega) d (endsNumber_comma _), depthFields]
    by_cases hd : depth v ≤ d
    · simp only [Nat.max_le, hd, if_true, true_and, skipBlanks_cons (by decide : isBlank ',' = false), hrest]
      by_cases hds : depthFields (f :: fs) ≤ d
      · simp [hds]
      · simp [hds]
    · simp [hd]

theorem readValue_bracket (fuel d : Nat) {c : Char} (hblank : isBlank c = false) (hbracket : c ≠ ']')
    (t : List Char) :
    readValue false (fuel + 1) (d + 1) ('[' :: c :: t) =
      (readItems false fuel d (c :: t)).map fun (items, r) => (.arr items, r) := by
  rw [readValue, skipBlanks_cons (by decide)]
  simp only [skipBlanks_cons hblank]
  split
  · next heq => exact absurd (List.cons.inj heq).1 hbracket
  · rfl

theorem readValue_brace (fuel d : Nat) (t : List Char) :
    readValue false (fuel + 1) (d + 1) ('\x7b' :: '"' :: t) =
      (readFields false fuel d ('"' :: t)).map fun (fields, r) => (.obj (sortFields fields), r) := by
  rw [readValue, skipBlanks_cons (by decide)]
  simp [skipBlanks_cons (by decide : isBlank '"' = false)]

theorem readValue_print_of {fuel : Nat} (ih : ReadsPrinted fuel) {v : Json} (h : Readable v)
    (hfuel : 2 * (print v).length ≤ fuel + 1) (d : Nat) {rest : List Char} (hrest : EndsNumber rest) :
    readValue false (fuel + 1) d (print v ++ rest) =
      if depth v ≤ d then some (v, rest) else none := by
  match v with
  | .null => simp [print, readValue, skipBlanks_cons (by decide : isBlank 'n' = false), depth]
  | .bool true => simp [print, readValue, skipBlanks_cons (by decide : isBlank 't' = false), depth]
  | .bool false => simp [print, readValue, skipBlanks_cons (by decide : isBlank 'f' = false), depth]
  | .num n => simp [readValue_print_num h fuel d hrest, depth]
  | .str s =>
    rw [print, printString, List.cons_append, List.append_assoc, List.singleton_append, readValue,
      skipBlanks_cons (by decide)]
    simp [readString_printed, depth]
  | .arr [] =>
    cases d with
    | zero => simp [print, printItems, readValue, skipBlanks_cons (by decide : isBlank '[' = false), depth]
    | succ d =>
      simp [print, printItems, readValue, skipBlanks_cons (by decide : isBlank '[' = false),
        skipBlanks_cons (by decide : isBlank ']' = false), depth, depthItems]
  | .arr (v :: vs) =>
    have hitems := h.items
    obtain ⟨c, t, hstart, hblank, hbracket⟩ := printItems_starts (hitems v (by simp)) vs
    simp only [print, List.length_cons] at hfuel
    cases d with
    | zero => simp [print, readValue, skipBlanks_cons (by decide : isBlank '[' = false), depth]
    | succ d =>
      have hread := ih.items (by simp) hitems (by omega) d rest
      rw [hstart, List.cons_append] at hread
      rw [print, hstart, List.cons_append, List.cons_append,
        readValue_bracket fuel d hblank hbracket, hread]
      by_cases hd : depthItems (v :: vs) ≤ d
      · simp [hd, depth]
      · simp [hd, depth]
  | .obj [] =>
    cases d with
    | zero => simp [print, printFields, readValue, skipBlanks_cons (by decide : isBlank '\x7b' = false), depth]
    | succ d =>
      simp [print, printFields, readValue, skipBlanks_cons (by decide : isBlank '\x7b' = false),
        skipBlanks_cons (by decide : isBlank '\x7d' = false), depth, depthFields]
  | .obj (f :: fs) =>
    obtain ⟨t, hstart⟩ := printFields_starts f fs
    simp only [print, List.length_cons] at hfuel
    cases d with
    | zero => simp [print, readValue, skipBlanks_cons (by decide : isBlank '\x7b' = false), depth]
    | succ d =>
      have hread := ih.fields (by simp) h.fields (by omega) d rest
      rw [hstart, List.cons_append] at hread
      rw [print, hstart, List.cons_append, List.cons_append, readValue_brace fuel d, hread]
      by_cases hd : depthFields (f :: fs) ≤ d
      · simp [hd, depth, sortFields_of_increasing h.ordered.1]
      · simp [hd, depth]

theorem print_ne_nil {v : Json} (h : Readable v) : print v ≠ [] := by
  obtain ⟨c, t, heq, -⟩ := print_starts h
  rw [heq]
  exact List.cons_ne_nil c t

theorem readsPrinted (fuel : Nat) : ReadsPrinted fuel := by
  induction fuel with
  | zero =>
    refine ⟨fun {v} h hfuel => ?_, fun _ _ hfuel => ?_, fun _ _ hfuel => ?_⟩
    · have := List.length_pos_iff.2 (print_ne_nil h)
      omega
    · omega
    · omega
  | succ fuel ih =>
    exact ⟨readValue_print_of ih, readItems_print_of ih, readFields_print_of ih⟩

/-- A document is read back exactly if it does not nest too deep, given enough fuel. -/
theorem readValue_print {v : Json} (h : Readable v) {fuel : Nat} (hfuel : 2 * (print v).length ≤ fuel)
    (d : Nat) {rest : List Char} (hrest : EndsNumber rest) :
    readValue false fuel d (print v ++ rest) = if depth v ≤ d then some (v, rest) else none :=
  (readsPrinted fuel).value h hfuel d hrest

/-- The text of a document holds exactly that document, if it nests at most 127 deep. -/
theorem parse?_text {v : Json} (h : Readable v) :
    parse? v.text = if depth v ≤ maxDepth then some v else none := by
  have hread : readValue false (2 * (print v).length + 2) maxDepth (print v ++ []) = _ :=
    readValue_print h (by omega) maxDepth endsNumber_nil
  rw [List.append_nil] at hread
  simp only [parse?, parseWithin, text, String.toList_ofList, hread]
  by_cases hd : depth v ≤ maxDepth
  · simp [hd, skipBlanks]
  · simp [hd]

end Lookout.Json
