import Lookout.Json.NumberReader
import Lookout.Json.Printer
import Mathlib.Data.List.TakeWhile

/-!
# Numbers read back

A whole number of 64 bits is read back from its digits, and reading a number does not depend on what
stands behind it, as long as that does not carry the number on.

* **`readNumber_append`** — what is read from a text is read from a longer one.
* **`readNumber_printInt`** — a whole number of 64 bits is read back from its digits.
-/

namespace Lookout.Json

/-- The text does not start with anything that would carry on a number before it. -/
def EndsNumber (rest : List Char) : Prop :=
  ∀ c ∈ rest.head?, c.isDigit = false ∧ c ≠ '.' ∧ c ≠ 'e' ∧ c ≠ 'E'

theorem endsNumber_nil : EndsNumber [] := by simp [EndsNumber]

theorem endsNumber_comma (rest : List Char) : EndsNumber (',' :: rest) := by
  simp [EndsNumber]

theorem endsNumber_bracket (rest : List Char) : EndsNumber (']' :: rest) := by
  simp [EndsNumber]

theorem endsNumber_brace (rest : List Char) : EndsNumber ('\x7d' :: rest) := by
  simp [EndsNumber]

/-! ## Digits -/

theorem spanDigits_append (cs : List Char) {rest : List Char} (h : EndsNumber rest) :
    spanDigits (cs ++ rest) = ((spanDigits cs).1, (spanDigits cs).2 ++ rest) := by
  induction cs with
  | nil =>
    cases rest with
    | nil => rfl
    | cons c rest =>
      have hc : c.isDigit = false := (h c (by simp)).1
      simp [spanDigits, hc]
  | cons c cs ih =>
    simp only [spanDigits, Prod.mk.injEq] at ih ⊢
    cases hc : c.isDigit with
    | true => simp [hc, ih.1, ih.2]
    | false => simp [hc]

theorem spanDigits_of_digits {ds : List Char} (h : ∀ c ∈ ds, c.isDigit = true) :
    spanDigits ds = (ds, []) := by
  rw [spanDigits, List.takeWhile_eq_self_iff.2 h, List.dropWhile_eq_nil_iff.2 h]

theorem le_ofDigitChars (ds : List Char) (significand : Nat) :
    significand ≤ Nat.ofDigitChars 10 ds significand := by
  induction ds generalizing significand with
  | nil => simp
  | cons d ds ih =>
    rw [Nat.ofDigitChars_cons]
    have := ih (10 * significand + (d.toNat - '0'.toNat))
    omega

/-- Digits are appended as long as the result stays within the bound. -/
theorem appendDigits_of_le {ds : List Char} {significand : Nat}
    (h : Nat.ofDigitChars 10 ds significand ≤ maxSignificand) :
    appendDigits significand ds = (Nat.ofDigitChars 10 ds significand, 0) := by
  induction ds generalizing significand with
  | nil => simp [appendDigits]
  | cons d ds ih =>
    have hstep : significand * 10 + digitValue d = 10 * significand + (d.toNat - '0'.toNat) := by
      simp only [digitValue]
      omega
    rw [Nat.ofDigitChars_cons] at h ⊢
    have hle := Nat.le_trans (le_ofDigitChars ds (10 * significand + (d.toNat - '0'.toNat))) h
    simp only [appendDigits, hstep]
    rw [if_neg (by omega), ih h]

/-- The digits of a positive number do not start with zero. -/
theorem head?_toDigits_ne_zero (n : Nat) (h : 0 < n) : (Nat.toDigits 10 n).head? ≠ some '0' := by
  induction n using Nat.strongRecOn with
  | ind n ih =>
    by_cases hn : n < 10
    · have hdigit : ∀ d < 10, 0 < d → [Nat.digitChar d].head? ≠ some '0' := by decide
      rw [Nat.toDigits_of_lt_base hn]
      exact hdigit n hn h
    · rw [Nat.toDigits_of_base_le (by decide) (by omega)]
      have hne : Nat.toDigits 10 (n / 10) ≠ [] := Nat.toDigits_ne_nil
      rw [List.head?_append, List.head?_eq_some_head hne, Option.some_or,
        ← List.head?_eq_some_head hne]
      exact ih (n / 10) (by omega) (by omega)

/-! ## What stands behind a number -/

/-- A text that does not carry a number on does not make a text before it do so. -/
theorem EndsNumber.append_ne {rest : List Char} (h : EndsNumber rest) {cs : List Char} {c : Char}
    (hcs : ∀ t, cs = c :: t → False) (hc : c = '.' ∨ c = 'e' ∨ c = 'E') (t : List Char) :
    cs ++ rest ≠ c :: t := by
  intro heq
  cases cs with
  | nil =>
    rw [List.nil_append] at heq
    obtain ⟨-, hdot, he, hE⟩ := h c (by simp [heq])
    rcases hc with hc | hc | hc
    · exact hdot hc
    · exact he hc
    · exact hE hc
  | cons d ds =>
    rw [List.cons_append, List.cons.injEq] at heq
    exact hcs ds (by rw [heq.1])

theorem spanSign_append {cs : List Char} (h : cs ≠ []) (rest : List Char) :
    spanSign (cs ++ rest) = ((spanSign cs).1, (spanSign cs).2 ++ rest) := by
  unfold spanSign
  split
  · next heq => cases cs with
    | nil => exact absurd rfl h
    | cons c cs => simp_all
  · next heq => cases cs with
    | nil => exact absurd rfl h
    | cons c cs => simp_all
  · next hplus hminus =>
    split
    · simp at hplus
    · simp at hminus
    · rfl

theorem readExponent_append {negative : Bool} {significand : Nat} {exponent : Int} {cs r : List Char}
    {n : Number} (h : readExponent negative significand exponent cs = some (n, r)) {rest : List Char}
    (hrest : EndsNumber rest) :
    readExponent negative significand exponent (cs ++ rest) = some (n, r ++ rest) := by
  have hne : cs ≠ [] := by
    intro hnil
    rw [hnil] at h
    simp [readExponent, spanSign, spanDigits] at h
  simp only [readExponent, spanSign_append hne, spanDigits_append _ hrest] at h ⊢
  generalize hspan : spanDigits (spanSign cs).2 = p at h ⊢
  obtain ⟨ds, behind⟩ := p
  cases ds with
  | nil => cases h
  | cons d ds =>
    dsimp only at h ⊢
    split at h
    all_goals
      obtain ⟨m, hm, heq⟩ := Option.map_eq_some_iff.1 h
      cases heq
      simp_all

theorem readOptionalExponent_append {negative : Bool} {significand : Nat} {exponent : Int}
    {cs r : List Char} {n : Number}
    (h : readOptionalExponent negative significand exponent cs = some (n, r)) {rest : List Char}
    (hrest : EndsNumber rest) :
    readOptionalExponent negative significand exponent (cs ++ rest) = some (n, r ++ rest) := by
  unfold readOptionalExponent at h
  split at h
  · simpa [readOptionalExponent] using readExponent_append h hrest
  · simpa [readOptionalExponent] using readExponent_append h hrest
  · next hlower hupper =>
    obtain ⟨m, hm, heq⟩ := Option.map_eq_some_iff.1 h
    cases heq
    unfold readOptionalExponent
    split
    · next heq => exact absurd heq (hrest.append_ne hlower (by simp) _)
    · next heq => exact absurd heq (hrest.append_ne hupper (by simp) _)
    · simp [hm]

theorem readPlaces_append {negative : Bool} {significand left : Nat} {cs r : List Char} {n : Number}
    (h : readPlaces negative significand left cs = some (n, r)) {rest : List Char}
    (hrest : EndsNumber rest) :
    readPlaces negative significand left (cs ++ rest) = some (n, r ++ rest) := by
  unfold readPlaces at h
  split at h
  · next cs =>
    simp only [List.cons_append, readPlaces, spanDigits_append _ hrest]
    generalize spanDigits cs = p at h ⊢
    obtain ⟨places, behind⟩ := p
    cases places with
    | nil => cases h
    | cons d places => exact readOptionalExponent_append h hrest
  · simpa [readPlaces] using readExponent_append h hrest
  · simpa [readPlaces] using readExponent_append h hrest
  · next hdot hlower hupper =>
    have hplain : ∀ t, cs ++ rest ≠ '.' :: t ∧ cs ++ rest ≠ 'e' :: t ∧ cs ++ rest ≠ 'E' :: t := fun t =>
      ⟨hrest.append_ne hdot (by simp) t, hrest.append_ne hlower (by simp) t,
        hrest.append_ne hupper (by simp) t⟩
    unfold readPlaces
    split
    · next heq => exact absurd heq (hplain _).1
    · next heq => exact absurd heq (hplain _).2.1
    · next heq => exact absurd heq (hplain _).2.2
    · by_cases hleft : left = 0
      · rw [if_pos hleft] at h ⊢
        obtain ⟨m, hm, heq⟩ := Option.map_eq_some_iff.1 h
        cases heq
        simp [hm]
      · rw [if_neg hleft] at h ⊢
        obtain ⟨m, hm, heq⟩ := Option.map_eq_some_iff.1 h
        cases heq
        simp [hm]

theorem readMagnitude_append {negative : Bool} {cs r : List Char} {n : Number}
    (h : readMagnitude negative cs = some (n, r)) {rest : List Char} (hrest : EndsNumber rest) :
    readMagnitude negative (cs ++ rest) = some (n, r ++ rest) := by
  simp only [readMagnitude, spanDigits_append _ hrest] at h ⊢
  generalize spanDigits cs = p at h ⊢
  obtain ⟨ds, behind⟩ := p
  split at h
  · cases h
  · cases h
  · next hnil hzero heq =>
    cases heq
    split
    · next heq => cases heq; exact (hnil rfl).elim
    · next heq => cases heq; exact (hzero _ _ rfl).elim
    · next heq => cases heq; exact readPlaces_append h hrest

/-- What is read from a text is read from a longer one. -/
theorem readNumber_append {cs r : List Char} {n : Number} (h : readNumber cs = some (n, r))
    {rest : List Char} (hrest : EndsNumber rest) : readNumber (cs ++ rest) = some (n, r ++ rest) := by
  unfold readNumber at h
  split at h
  · simpa [readNumber] using readMagnitude_append h hrest
  · next hminus =>
    unfold readNumber
    split
    · next heq =>
      cases cs with
      | nil => simp [readMagnitude, spanDigits] at h
      | cons c cs =>
        rw [List.cons_append, List.cons.injEq] at heq
        exact absurd (by rw [heq.1]) (hminus cs)
    · exact readMagnitude_append h hrest

/-! ## Whole numbers -/

theorem readPlaces_of_endsNumber {rest : List Char} (h : EndsNumber rest) (negative : Bool)
    (significand : Nat) :
    readPlaces negative significand 0 rest = (wholeOrReal negative significand).map (·, rest) := by
  unfold readPlaces
  split
  · exact absurd rfl (h '.' (by simp)).2.1
  · exact absurd rfl (h 'e' (by simp)).2.2.1
  · exact absurd rfl (h 'E' (by simp)).2.2.2
  · rfl

theorem readMagnitude_toDigits (negative : Bool) {n : Nat} (hn : n ≤ maxSignificand) {rest : List Char}
    (hrest : EndsNumber rest) :
    readMagnitude negative (Nat.toDigits 10 n ++ rest) =
      (wholeOrReal negative n).map (·, rest) := by
  have hdigits : ∀ c ∈ Nat.toDigits 10 n, c.isDigit = true := fun c hc =>
    Nat.isDigit_of_mem_toDigits (by decide) (by decide) hc
  have happend : appendDigits 0 (Nat.toDigits 10 n) = (n, 0) := by
    rw [appendDigits_of_le (by rwa [Nat.ofDigitChars_ten_toDigits]), Nat.ofDigitChars_ten_toDigits]
  rw [readMagnitude, spanDigits_append _ hrest, spanDigits_of_digits hdigits]
  split
  · next heq => exact absurd (Prod.mk.inj heq).1 Nat.toDigits_ne_nil
  · next d ds behind heq =>
    -- Two digits of which the first is zero are the digits of no number.
    have hds : Nat.toDigits 10 n = '0' :: d :: ds := (Prod.mk.inj heq).1
    rcases Nat.eq_zero_or_pos n with rfl | hpos
    · simp at hds
    · exact absurd (by rw [hds]; rfl) (head?_toDigits_ne_zero n hpos)
  · next heq =>
    cases heq
    simp only [happend, List.nil_append]
    exact readPlaces_of_endsNumber hrest negative n

/-- A whole number of 64 bits is read back from its digits. -/
theorem readNumber_printInt {n : Int} (h : Fits n) {rest : List Char} (hrest : EndsNumber rest) :
    readNumber (printInt n ++ rest) = some (.whole n h, rest) := by
  have hbound : n.natAbs ≤ maxSignificand := by
    simp only [Fits, maxSignificand] at h ⊢
    omega
  by_cases hneg : n < 0
  · have hcast : -(n.natAbs : Int) = n := by omega
    have hzero : n.natAbs ≠ 0 := by omega
    rw [printInt, if_pos hneg, List.cons_append, readNumber, readMagnitude_toDigits true hbound hrest]
    have hwhole : wholeOrReal true n.natAbs = some (.whole n h) := by
      simp only [wholeOrReal, if_true, hcast, dif_pos h, Bool.true_and, beq_iff_eq, if_neg hzero]
    rw [hwhole]
    rfl
  · have hcast : (n.natAbs : Int) = n := by omega
    have hminus : ∀ t, Nat.toDigits 10 n.natAbs ++ rest ≠ '-' :: t := by
      intro t heq
      obtain ⟨d, ds, hds⟩ := List.exists_cons_of_ne_nil (Nat.toDigits_ne_nil (n := n.natAbs) (b := 10))
      have hd : d.isDigit = true :=
        Nat.isDigit_of_mem_toDigits (by decide) (by decide) (hds ▸ List.mem_cons_self)
      rw [hds, List.cons_append, List.cons.injEq] at heq
      rw [heq.1] at hd
      exact absurd hd (by decide)
    rw [printInt, if_neg hneg]
    unfold readNumber
    split
    · next heq => exact absurd heq (hminus _)
    · rw [readMagnitude_toDigits false hbound hrest]
      have hwhole : wholeOrReal false n.natAbs = some (.whole n h) := by
        simp only [wholeOrReal, Bool.false_eq_true, if_false, hcast, dif_pos h, Bool.false_and]
      rw [hwhole]
      rfl

end Lookout.Json
