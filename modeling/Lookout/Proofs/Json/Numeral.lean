import Lookout.Json.Reader
import Lookout.Proofs.Json.Number
import Mathlib.Data.List.Induction

/-!
# The grammar of numbers

A number is written with an optional minus sign, digits without a needless leading zero, optional places
behind a point and an optional power behind the letter `e`. The two readers of numbers, one that takes
the value and one that only passes over the text, stop behind a text of that form.

* **`skipNumber_numeral`**, **`numeral_of_skipNumber`** — exactly the written numbers are passed over.
* **`numeral_of_readNumber`** — what is read as a number is a written number, and its value is that of
  the text alone.
* **`eq_printInt_of_readNumber`** — a whole number has one written form.
-/

namespace Lookout.Json

/-- One digit or more. -/
structure Digits (ds : List Char) : Prop where
  nonempty : ds ≠ []
  isDigit : ∀ c ∈ ds, c.isDigit = true

/-- The digits in front of the point: the first is no zero, unless it stands alone. -/
structure Whole (ds : List Char) : Prop where
  digits : Digits ds
  head : ∀ rest, ds = '0' :: rest → rest = []

/-- The places behind the point. -/
inductive Places : List Char → Prop
  | none : Places []
  | point {ds : List Char} (digits : Digits ds) : Places ('.' :: ds)

/-- The sign of a power. -/
inductive PowerSign : List Char → Prop
  | none : PowerSign []
  | plus : PowerSign ['+']
  | minus : PowerSign ['-']

/-- The power of ten. -/
inductive Power : List Char → Prop
  | none : Power []
  | letter {e : Char} {sign ds : List Char} (isLetter : e = 'e' ∨ e = 'E') (isSign : PowerSign sign)
      (digits : Digits ds) : Power (e :: (sign ++ ds))

/-- A number behind its sign. -/
inductive Magnitude : List Char → Prop
  | mk {ds places power : List Char} (whole : Whole ds) (isPlaces : Places places)
      (isPower : Power power) : Magnitude (ds ++ (places ++ power))

/-- A written number. -/
inductive Numeral : List Char → Prop
  | plain {cs : List Char} (magnitude : Magnitude cs) : Numeral cs
  | minus {cs : List Char} (magnitude : Magnitude cs) : Numeral ('-' :: cs)

/-! ## Digits -/

/-- What is found in front of a text that does not go on with a digit. -/
theorem spanDigits_stop {ds : List Char} (h : ∀ c ∈ ds, c.isDigit = true) {rest : List Char}
    (hrest : ∀ c ∈ rest.head?, c.isDigit = false) : spanDigits (ds ++ rest) = (ds, rest) := by
  have hnone : rest.takeWhile Char.isDigit = [] ∧ rest.dropWhile Char.isDigit = rest := by
    cases rest with
    | nil => exact ⟨rfl, rfl⟩
    | cons c rest => simp [hrest c (by simp)]
  rw [spanDigits, List.takeWhile_append_of_pos h, List.dropWhile_append_of_pos h, hnone.1, hnone.2,
    List.append_nil]

/-- Digits and the text behind them, as they are found at the start of a text. -/
theorem spanDigits_eq {cs ds rest : List Char} (h : spanDigits cs = (ds, rest)) :
    cs = ds ++ rest ∧ ∀ c ∈ ds, c.isDigit = true := by
  cases h
  exact ⟨List.takeWhile_append_dropWhile.symm, fun c hc => List.mem_takeWhile_imp hc⟩

theorem spanDigits_self {ds : List Char} (h : Digits ds) : spanDigits ds = (ds, []) :=
  spanDigits_of_digits h.isDigit

theorem Digits.starts {ds : List Char} (h : Digits ds) : ∃ d t, ds = d :: t ∧ d.isDigit = true := by
  obtain ⟨d, t, rfl⟩ := List.exists_cons_of_ne_nil h.nonempty
  exact ⟨d, t, rfl, h.isDigit d List.mem_cons_self⟩

theorem head_not_digit_append {cs rest : List Char} (h : ∀ c ∈ cs.head?, c.isDigit = false)
    (hrest : ∀ c ∈ rest.head?, c.isDigit = false) : ∀ c ∈ (cs ++ rest).head?, c.isDigit = false := by
  cases cs with
  | nil => exact hrest
  | cons c cs => exact h

/-- A power does not go on with the digits before it. -/
theorem Power.head_not_digit {power : List Char} (h : Power power) :
    ∀ c ∈ power.head?, c.isDigit = false := by
  cases h with
  | none => simp
  | letter isLetter _ _ => rcases isLetter with rfl | rfl <;> simp

theorem Places.head_not_digit {places : List Char} (h : Places places) :
    ∀ c ∈ places.head?, c.isDigit = false := by
  cases h with
  | none => simp
  | point _ => simp

theorem whole_of_not_zero {ds : List Char} (hnil : ds ≠ []) (hdigit : ∀ c ∈ ds, c.isDigit = true)
    (hzero : ∀ d t, ds = '0' :: d :: t → False) : Whole ds := by
  refine ⟨⟨hnil, hdigit⟩, fun t ht => ?_⟩
  cases t with
  | nil => rfl
  | cons d t => exact (hzero d t ht).elim

/-! ## Reading values -/

/-- A sign in front of a digit is found there. -/
theorem PowerSign.spanSign_snd {sign : List Char} (h : PowerSign sign) {d : Char}
    (hd : d.isDigit = true) (t : List Char) : (spanSign (sign ++ d :: t)).2 = d :: t := by
  cases h with
  | none =>
    rw [List.nil_append]
    unfold spanSign
    split
    · next heq => cases heq; cases hd
    · next heq => cases heq; cases hd
    · rfl
  | plus => rfl
  | minus => rfl

/-- The sign at the start of a text, which is found in front of other digits as well. -/
theorem exists_powerSign (cs : List Char) : ∃ sign, PowerSign sign ∧ cs = sign ++ (spanSign cs).2 ∧
    ∀ d t, d.isDigit = true → (spanSign (sign ++ d :: t)).1 = (spanSign cs).1 := by
  unfold spanSign
  split
  · exact ⟨['+'], .plus, rfl, fun _ _ _ => rfl⟩
  · exact ⟨['-'], .minus, rfl, fun _ _ _ => rfl⟩
  · refine ⟨[], .none, rfl, fun d t hd => ?_⟩
    rw [List.nil_append]
    split
    · next heq => cases heq; cases hd
    · next heq => cases heq; cases hd
    · rfl

theorem written_of_readExponent {negative : Bool} {significand : Nat} {exponent : Int}
    {cs rest : List Char} {n : Number}
    (h : readExponent negative significand exponent cs = some (n, rest)) :
    ∃ sign ds, cs = sign ++ ds ++ rest ∧ PowerSign sign ∧ Digits ds ∧
      readExponent negative significand exponent (sign ++ ds) = some (n, []) := by
  obtain ⟨sign, hsign, hcs, hsame⟩ := exists_powerSign cs
  simp only [readExponent] at h
  generalize hspan : spanDigits (spanSign cs).2 = p at h
  obtain ⟨ds, behind⟩ := p
  obtain ⟨heq, hdigit⟩ := spanDigits_eq hspan
  cases ds with
  | nil => cases h
  | cons d ds =>
    have hds : Digits (d :: ds) := ⟨List.cons_ne_nil d ds, hdigit⟩
    dsimp only at h
    have hrest : behind = rest := by
      split at h
      all_goals
        obtain ⟨m, -, hm⟩ := Option.map_eq_some_iff.1 h
        exact (Prod.mk.inj hm).2
    subst hrest
    refine ⟨sign, d :: ds, by rw [List.append_assoc, ← heq, ← hcs], hsign, hds, ?_⟩
    have hself : spanSign (sign ++ d :: ds) = ((spanSign cs).1, d :: ds) :=
      Prod.ext (hsame d ds (hdigit d (by simp))) (hsign.spanSign_snd (hdigit d (by simp)) ds)
    simp only [readExponent, hself, spanDigits_self hds]
    split at h
    · next hzero =>
      obtain ⟨m, hm, heq⟩ := Option.map_eq_some_iff.1 h
      rw [if_pos hzero, hm, Option.map_some, (Prod.mk.inj heq).1]
    · next hzero =>
      obtain ⟨m, hm, heq⟩ := Option.map_eq_some_iff.1 h
      rw [if_neg hzero, hm, Option.map_some, (Prod.mk.inj heq).1]

theorem written_of_readOptionalExponent {negative : Bool} {significand : Nat} {exponent : Int}
    {cs rest : List Char} {n : Number}
    (h : readOptionalExponent negative significand exponent cs = some (n, rest)) :
    ∃ power, cs = power ++ rest ∧ Power power ∧
      readOptionalExponent negative significand exponent power = some (n, []) := by
  unfold readOptionalExponent at h
  split at h
  · obtain ⟨sign, ds, rfl, hsign, hds, hread⟩ := written_of_readExponent h
    exact ⟨'e' :: (sign ++ ds), rfl, .letter (.inl rfl) hsign hds, hread⟩
  · obtain ⟨sign, ds, rfl, hsign, hds, hread⟩ := written_of_readExponent h
    exact ⟨'E' :: (sign ++ ds), rfl, .letter (.inr rfl) hsign hds, hread⟩
  · obtain ⟨m, hm, heq⟩ := Option.map_eq_some_iff.1 h
    cases heq
    exact ⟨[], rfl, .none, by simp [readOptionalExponent, hm]⟩

theorem written_of_readPlaces {negative : Bool} {significand left : Nat} {cs rest : List Char}
    {n : Number} (h : readPlaces negative significand left cs = some (n, rest)) :
    ∃ places power, cs = places ++ power ++ rest ∧ Places places ∧ Power power ∧
      readPlaces negative significand left (places ++ power) = some (n, []) := by
  unfold readPlaces at h
  split at h
  · next cs =>
    generalize hspan : spanDigits cs = p at h
    obtain ⟨ds, behind⟩ := p
    obtain ⟨rfl, hdigit⟩ := spanDigits_eq hspan
    cases ds with
    | nil => cases h
    | cons d ds =>
      have hds : Digits (d :: ds) := ⟨List.cons_ne_nil d ds, hdigit⟩
      obtain ⟨power, rfl, hpower, hread⟩ := written_of_readOptionalExponent h
      refine ⟨'.' :: d :: ds, power, by simp, .point hds, hpower, ?_⟩
      rw [List.cons_append, readPlaces, spanDigits_stop hdigit hpower.head_not_digit]
      exact hread
  · obtain ⟨sign, ds, rfl, hsign, hds, hread⟩ := written_of_readExponent h
    exact ⟨[], 'e' :: (sign ++ ds), rfl, .none, .letter (.inl rfl) hsign hds, hread⟩
  · obtain ⟨sign, ds, rfl, hsign, hds, hread⟩ := written_of_readExponent h
    exact ⟨[], 'E' :: (sign ++ ds), rfl, .none, .letter (.inr rfl) hsign hds, hread⟩
  · refine ⟨[], [], ?_, .none, .none, ?_⟩
    · split at h
      all_goals
        obtain ⟨m, -, heq⟩ := Option.map_eq_some_iff.1 h
        exact (Prod.mk.inj heq).2
    · split at h
      all_goals
        obtain ⟨m, hm, heq⟩ := Option.map_eq_some_iff.1 h
        simp_all [readPlaces]

theorem written_of_readMagnitude {negative : Bool} {cs rest : List Char} {n : Number}
    (h : readMagnitude negative cs = some (n, rest)) :
    ∃ t, cs = t ++ rest ∧ Magnitude t ∧ readMagnitude negative t = some (n, []) := by
  unfold readMagnitude at h
  split at h
  · cases h
  · cases h
  · next ds behind hnil hzero hspan =>
    obtain ⟨rfl, hdigit⟩ := spanDigits_eq hspan
    have hwhole := whole_of_not_zero hnil hdigit hzero
    obtain ⟨places, power, rfl, hplaces, hpower, hread⟩ := written_of_readPlaces h
    refine ⟨ds ++ (places ++ power), by simp, .mk hwhole hplaces hpower, ?_⟩
    rw [readMagnitude, spanDigits_stop hdigit
      (head_not_digit_append hplaces.head_not_digit hpower.head_not_digit)]
    split
    · next heq => exact absurd (Prod.mk.inj heq).1 hnil
    · next heq => exact (hzero _ _ (Prod.mk.inj heq).1).elim
    · next heq => cases heq; exact hread

theorem Magnitude.starts {t : List Char} (h : Magnitude t) : ∃ d u, t = d :: u ∧ d.isDigit = true := by
  obtain ⟨whole, -, -⟩ := h
  obtain ⟨d, u, rfl, hd⟩ := whole.digits.starts
  exact ⟨d, _, rfl, hd⟩

/-- What is read as a number is a written number, and its value is that of the text alone. -/
theorem numeral_of_readNumber {cs rest : List Char} {n : Number}
    (h : readNumber cs = some (n, rest)) :
    ∃ t, cs = t ++ rest ∧ Numeral t ∧ readNumber t = some (n, []) := by
  unfold readNumber at h
  split at h
  · obtain ⟨t, rfl, ht, hread⟩ := written_of_readMagnitude h
    exact ⟨'-' :: t, rfl, .minus ht, hread⟩
  · obtain ⟨t, rfl, ht, hread⟩ := written_of_readMagnitude h
    refine ⟨t, rfl, .plain ht, ?_⟩
    obtain ⟨d, u, rfl, hd⟩ := ht.starts
    unfold readNumber
    split
    · next heq => cases heq; cases hd
    · exact hread

/-! ## Passing over numbers -/

/-- Passes over the places. -/
def skipPlaces : List Char → Option (List Char)
  | '.' :: rest =>
    match spanDigits rest with
    | ([], _) => none
    | (_, rest) => some rest
  | rest => some rest

/-- Passes over the power behind its letter. -/
def skipExponent (cs : List Char) : Option (List Char) :=
  match spanDigits (spanSign cs).2 with
  | ([], _) => none
  | (_, rest) => some rest

/-- Passes over the power. -/
def skipPower : List Char → Option (List Char)
  | 'e' :: rest | 'E' :: rest => skipExponent rest
  | rest => some rest

/-- Passes over a number behind its sign. -/
def skipMagnitude (cs : List Char) : Option (List Char) :=
  match spanDigits cs with
  | ([], _) => none
  | ('0' :: _ :: _, _) => none
  | (_, rest) => (skipPlaces rest).bind skipPower

/-- The text behind a minus sign. -/
def unsigned : List Char → List Char
  | '-' :: rest => rest
  | rest => rest

theorem skipMagnitude_of_span {cs ds rest : List Char} (span : spanDigits cs = (ds, rest))
    (nonempty : ds ≠ []) (noZero : ∀ d t, ds = '0' :: d :: t → False) :
    skipMagnitude cs = (skipPlaces rest).bind skipPower := by
  rw [skipMagnitude, span]
  split
  · next heq => exact absurd (Prod.mk.inj heq).1 nonempty
  · next heq => exact (noZero _ _ (Prod.mk.inj heq).1).elim
  · next heq =>
    cases heq
    rfl

theorem skipNumber_eq (cs : List Char) : skipNumber cs = skipMagnitude (unsigned cs) := by
  unfold skipNumber
  extract_lets magnitude
  have hmagnitude : magnitude = unsigned cs := rfl
  rw [hmagnitude]
  split
  · next hspan => simp [skipMagnitude, hspan]
  · next hspan => simp [skipMagnitude, hspan]
  · next ds rest hnil hzero hspan =>
    extract_lets behind
    have hbehind : behind = skipPlaces rest := rfl
    rw [hbehind, skipMagnitude_of_span hspan hnil hzero]
    cases skipPlaces rest with
    | none => rfl
    | some rest =>
      rw [Option.bind_some]
      unfold skipPower skipExponent spanSign
      split
      · next heq => cases heq
      · next heq => cases heq; grind
      · next heq => cases heq; grind
      · next heq => cases heq; grind

theorem written_of_skipExponent {cs rest : List Char} (h : skipExponent cs = some rest) :
    ∃ sign ds, cs = sign ++ ds ++ rest ∧ PowerSign sign ∧ Digits ds := by
  obtain ⟨sign, hsign, hcs, -⟩ := exists_powerSign cs
  unfold skipExponent at h
  split at h
  · cases h
  · next ds _ hnil hspan =>
    cases h
    obtain ⟨heq, hdigit⟩ := spanDigits_eq hspan
    exact ⟨sign, ds, by rw [List.append_assoc, ← heq, ← hcs], hsign, ⟨hnil, hdigit⟩⟩

theorem written_of_skipPower {cs rest : List Char} (h : skipPower cs = some rest) :
    ∃ power, cs = power ++ rest ∧ Power power := by
  unfold skipPower at h
  split at h
  · obtain ⟨sign, ds, rfl, hsign, hds⟩ := written_of_skipExponent h
    exact ⟨'e' :: (sign ++ ds), rfl, .letter (.inl rfl) hsign hds⟩
  · obtain ⟨sign, ds, rfl, hsign, hds⟩ := written_of_skipExponent h
    exact ⟨'E' :: (sign ++ ds), rfl, .letter (.inr rfl) hsign hds⟩
  · cases h
    exact ⟨[], rfl, .none⟩

theorem written_of_skipPlaces {cs rest : List Char} (h : skipPlaces cs = some rest) :
    ∃ places, cs = places ++ rest ∧ Places places := by
  unfold skipPlaces at h
  split at h
  · split at h
    · cases h
    · next ds _ hnil hspan =>
      cases h
      obtain ⟨rfl, hdigit⟩ := spanDigits_eq hspan
      exact ⟨'.' :: ds, rfl, .point ⟨hnil, hdigit⟩⟩
  · cases h
    exact ⟨[], rfl, .none⟩

theorem written_of_skipMagnitude {cs rest : List Char} (h : skipMagnitude cs = some rest) :
    ∃ t, cs = t ++ rest ∧ Magnitude t := by
  unfold skipMagnitude at h
  split at h
  · cases h
  · cases h
  · next ds behind hnil hzero hspan =>
    obtain ⟨rfl, hdigit⟩ := spanDigits_eq hspan
    obtain ⟨behind', hbehind, hrest⟩ := Option.bind_eq_some_iff.1 h
    obtain ⟨places, rfl, hplaces⟩ := written_of_skipPlaces hbehind
    obtain ⟨power, rfl, hpower⟩ := written_of_skipPower hrest
    exact ⟨ds ++ (places ++ power), by simp, .mk (whole_of_not_zero hnil hdigit hzero) hplaces hpower⟩

/-- What is passed over as a number is a written number. -/
theorem numeral_of_skipNumber {cs rest : List Char} (h : skipNumber cs = some rest) :
    ∃ t, cs = t ++ rest ∧ Numeral t := by
  rw [skipNumber_eq] at h
  obtain ⟨t, heq, ht⟩ := written_of_skipMagnitude h
  unfold unsigned at heq
  split at heq
  · exact ⟨'-' :: t, by rw [heq, List.cons_append], .minus ht⟩
  · exact ⟨t, heq, .plain ht⟩

theorem EndsNumber.head_not_digit {rest : List Char} (h : EndsNumber rest) :
    ∀ c ∈ rest.head?, c.isDigit = false := fun c hc => (h c hc).1

theorem skipPower_written {power : List Char} (h : Power power) {rest : List Char}
    (hrest : EndsNumber rest) : skipPower (power ++ rest) = some rest := by
  cases h with
  | none =>
    rw [List.nil_append]
    unfold skipPower
    split
    · exact absurd rfl (hrest 'e' (by simp)).2.2.1
    · exact absurd rfl (hrest 'E' (by simp)).2.2.2
    · rfl
  | @letter e sign ds isLetter isSign digits =>
    have hexponent : skipExponent (sign ++ (ds ++ rest)) = some rest := by
      obtain ⟨d, t, rfl, hd⟩ := digits.starts
      rw [skipExponent, List.cons_append, isSign.spanSign_snd hd, ← List.cons_append,
        spanDigits_stop digits.isDigit hrest.head_not_digit]
    rcases isLetter with rfl | rfl
    · rw [List.cons_append, List.append_assoc, skipPower, hexponent]
    · rw [List.cons_append, List.append_assoc, skipPower, hexponent]

theorem skipPlaces_written {places : List Char} (h : Places places) {power : List Char}
    (hpower : Power power) {rest : List Char} (hrest : EndsNumber rest) :
    skipPlaces (places ++ (power ++ rest)) = some (power ++ rest) := by
  cases h with
  | none =>
    have hpoint : ∀ t, power = '.' :: t → False := by
      rintro t rfl
      cases hpower with
      | letter isLetter _ _ => simp at isLetter
    rw [List.nil_append]
    unfold skipPlaces
    split
    · next heq => exact absurd heq (hrest.append_ne hpoint (.inl rfl) _)
    · rfl
  | point digits =>
    rw [List.cons_append, skipPlaces, spanDigits_stop digits.isDigit
      (head_not_digit_append hpower.head_not_digit hrest.head_not_digit)]
    obtain ⟨d, t, rfl, -⟩ := digits.starts
    rfl

theorem skipMagnitude_written {t : List Char} (h : Magnitude t) {rest : List Char}
    (hrest : EndsNumber rest) : skipMagnitude (t ++ rest) = some rest := by
  obtain ⟨whole, isPlaces, isPower⟩ := h
  have hspan := spanDigits_stop whole.digits.isDigit (head_not_digit_append isPlaces.head_not_digit
    (head_not_digit_append isPower.head_not_digit hrest.head_not_digit))
  rw [List.append_assoc, List.append_assoc, skipMagnitude_of_span hspan whole.digits.nonempty
    fun _ _ heq => List.cons_ne_nil _ _ (whole.head _ heq), skipPlaces_written isPlaces isPower hrest,
    Option.bind_some, skipPower_written isPower hrest]

/-- Every written number is passed over if nothing carries it on. -/
theorem skipNumber_numeral {t : List Char} (h : Numeral t) {rest : List Char} (hrest : EndsNumber rest) :
    skipNumber (t ++ rest) = some rest := by
  rw [skipNumber_eq]
  cases h with
  | minus magnitude => exact skipMagnitude_written magnitude hrest
  | plain magnitude =>
    have hunsigned : unsigned (t ++ rest) = t ++ rest := by
      obtain ⟨d, u, rfl, hd⟩ := magnitude.starts
      unfold unsigned
      split
      · next heq => cases heq; cases hd
      · rfl
    rw [hunsigned, skipMagnitude_written magnitude hrest]

/-! ## Whole numbers -/

theorem digit_bounds {c : Char} (h : c.isDigit = true) : 48 ≤ c.toNat ∧ c.toNat ≤ 57 := by
  simpa [Char.isDigit, UInt32.le_iff_toNat_le] using h

theorem digitValue_lt {c : Char} (h : c.isDigit = true) : digitValue c < 10 := by
  have hbounds := digit_bounds h
  change c.toNat - 48 < 10
  omega

theorem digitChar_digitValue {c : Char} (h : c.isDigit = true) : Nat.digitChar (digitValue c) = c := by
  have hall : ∀ n < 10, Nat.digitChar n = Char.ofNat (48 + n) := by decide
  have hvalue : digitValue c = c.toNat - 48 := rfl
  rw [hall _ (digitValue_lt h), hvalue, Nat.add_sub_cancel' (digit_bounds h).1, Char.ofNat_toNat]

/-- Digits without a needless leading zero are the digits of their value. -/
theorem toDigits_ofDigitChars {ds : List Char} (h : Whole ds) :
    Nat.toDigits 10 (Nat.ofDigitChars 10 ds 0) = ds := by
  induction ds using List.reverseRecOn with
  | nil => exact absurd rfl h.digits.nonempty
  | append_singleton ds c ih =>
    have hc : c.isDigit = true := h.digits.isDigit c (by simp)
    have hlast : Nat.toDigits 10 (digitValue c) = [c] := by
      rw [Nat.toDigits_of_lt_base (digitValue_lt hc), digitChar_digitValue hc]
    rw [Nat.ofDigitChars_append, Nat.ofDigitChars_cons, Nat.ofDigitChars_nil,
      show c.toNat - '0'.toNat = digitValue c from rfl]
    by_cases hds : ds = []
    · subst hds
      rw [Nat.ofDigitChars_nil, Nat.mul_zero, Nat.zero_add, hlast, List.nil_append]
    · -- More digits than one do not start with zero, so that those before the last make a positive number.
      have hhead : ∀ rest, ds ≠ '0' :: rest := by
        rintro rest rfl
        exact absurd (h.head (rest ++ [c]) rfl) (by simp)
      have hwhole : Whole ds := by
        refine ⟨⟨hds, fun d hd => h.digits.isDigit d (by simp [hd])⟩, fun rest hrest => ?_⟩
        exact absurd hrest (hhead rest)
      have hpos : 0 < Nat.ofDigitChars 10 ds 0 := by
        rw [Nat.pos_iff_ne_zero]
        intro hzero
        have hsame := ih hwhole
        rw [hzero, Nat.toDigits_zero] at hsame
        exact hhead [] hsame.symm
      rw [← Nat.toDigits_append_toDigits (by decide) hpos (digitValue_lt hc), ih hwhole, hlast]

/-- All digits are appended if none is left out. -/
theorem eq_ofDigitChars_of_appendDigits {ds : List Char} {significand longer : Nat}
    (h : appendDigits significand ds = (longer, 0)) : longer = Nat.ofDigitChars 10 ds significand := by
  induction ds generalizing significand with
  | nil =>
    cases h
    rw [Nat.ofDigitChars_nil]
  | cons d ds ih =>
    rw [appendDigits] at h
    split at h
    · cases h
    · rw [ih h, Nat.ofDigitChars_cons, Nat.mul_comm]
      rfl

/-- The number is no whole number. -/
def Number.IsReal (m : Number) : Prop := ∀ n fits, m ≠ .whole n fits

theorem isReal_of_realOfParts {negative : Bool} {significand : Nat} {exponent : Int} {m : Number}
    (h : realOfParts negative significand exponent = some m) : m.IsReal := by
  unfold realOfParts at h
  split at h
  · dsimp only at h
    split at h
    · cases h
      exact fun _ _ => nofun
    · cases h
  · cases h

theorem isReal_of_map {o : Option Number} (h : ∀ m ∈ o, m.IsReal) {rest rest' : List Char} {m : Number}
    (hm : o.map (·, rest) = some (m, rest')) : m.IsReal := by
  obtain ⟨m', hm', heq⟩ := Option.map_eq_some_iff.1 hm
  exact (Prod.mk.inj heq).1 ▸ h m' hm'

theorem isReal_of_readExponent {negative : Bool} {significand : Nat} {exponent : Int}
    {cs rest : List Char} {m : Number}
    (h : readExponent negative significand exponent cs = some (m, rest)) : m.IsReal := by
  simp only [readExponent] at h
  split at h
  · cases h
  · split at h
    · exact isReal_of_map (fun _ => isReal_of_realOfParts) h
    · exact isReal_of_map (fun _ => isReal_of_realOfParts) h

theorem isReal_of_readOptionalExponent {negative : Bool} {significand : Nat} {exponent : Int}
    {cs rest : List Char} {m : Number}
    (h : readOptionalExponent negative significand exponent cs = some (m, rest)) : m.IsReal := by
  unfold readOptionalExponent at h
  split at h
  · exact isReal_of_readExponent h
  · exact isReal_of_readExponent h
  · exact isReal_of_map (fun _ => isReal_of_realOfParts) h

/-- A number that is whole has neither places nor power, and all of its digits count. -/
theorem readPlaces_whole {negative : Bool} {significand left : Nat} {cs rest : List Char} {n : Int}
    {fits : Fits n} (h : readPlaces negative significand left cs = some (.whole n fits, rest)) :
    left = 0 ∧ cs = rest ∧ wholeOrReal negative significand = some (.whole n fits) := by
  unfold readPlaces at h
  split at h
  · split at h
    · cases h
    · exact absurd rfl (isReal_of_readOptionalExponent h n fits)
  · exact absurd rfl (isReal_of_readExponent h n fits)
  · exact absurd rfl (isReal_of_readExponent h n fits)
  · split at h
    · next hleft =>
      obtain ⟨m, hm, heq⟩ := Option.map_eq_some_iff.1 h
      cases heq
      exact ⟨hleft, rfl, hm⟩
    · exact absurd rfl (isReal_of_map (fun _ => isReal_of_realOfParts) h n fits)

theorem wholeOrReal_whole {negative : Bool} {m : Nat} {n : Int} {fits : Fits n}
    (h : wholeOrReal negative m = some (.whole n fits)) :
    (negative = true ∧ m ≠ 0 ∧ n = -(m : Int)) ∨ (negative = false ∧ n = m) := by
  unfold wholeOrReal at h
  generalize hvalue : (if negative then -(m : Int) else (m : Int)) = k at h
  dsimp only at h
  split at h
  · split at h
    · exact absurd rfl (isReal_of_realOfParts h n fits)
    · next hzero =>
      cases h
      cases negative with
      | true => exact .inl ⟨rfl, by simpa using hzero, hvalue.symm⟩
      | false => exact .inr ⟨rfl, hvalue.symm⟩
  · exact absurd rfl (isReal_of_realOfParts h n fits)

theorem readMagnitude_whole {negative : Bool} {cs : List Char} {n : Int} {fits : Fits n}
    (h : readMagnitude negative cs = some (.whole n fits, [])) :
    ∃ m, cs = Nat.toDigits 10 m ∧ wholeOrReal negative m = some (.whole n fits) := by
  unfold readMagnitude at h
  split at h
  · cases h
  · cases h
  · next ds behind hnil hzero hspan =>
    obtain ⟨rfl, hdigit⟩ := spanDigits_eq hspan
    obtain ⟨hleft, rfl, hwhole⟩ := readPlaces_whole h
    refine ⟨(appendDigits 0 ds).1, ?_, hwhole⟩
    have hvalue : (appendDigits 0 ds).1 = Nat.ofDigitChars 10 ds 0 :=
      eq_ofDigitChars_of_appendDigits (Prod.ext rfl hleft)
    rw [hvalue, toDigits_ofDigitChars (whole_of_not_zero hnil hdigit hzero), List.append_nil]

/-- A whole number has one written form. -/
theorem eq_printInt_of_readNumber {t : List Char} {n : Int} {fits : Fits n}
    (h : readNumber t = some (.whole n fits, [])) : t = printInt n := by
  unfold readNumber at h
  split at h
  · obtain ⟨m, rfl, hm⟩ := readMagnitude_whole h
    obtain ⟨-, hzero, rfl⟩ | ⟨h, -⟩ := wholeOrReal_whole hm
    · rw [printInt, if_pos (by omega), Int.natAbs_neg, Int.natAbs_natCast]
    · cases h
  · obtain ⟨m, rfl, hm⟩ := readMagnitude_whole h
    obtain ⟨h, -⟩ | ⟨-, rfl⟩ := wholeOrReal_whole hm
    · cases h
    · rw [printInt, if_neg (by omega), Int.natAbs_natCast]

end Lookout.Json
