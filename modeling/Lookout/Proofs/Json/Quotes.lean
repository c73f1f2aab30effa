import Lookout.Proofs.Json.RoundTrip

/-!
# The grammar of texts in quotes

The texts up to and with a closing quote, as a relation to the characters that they write, independent of
the reader. In a text that is passed over halves of surrogate pairs may stand without their partners.

* **`readString_iff`** — exactly the texts in quotes are read.
-/

namespace Lookout.Json

/-! ## Blanks -/

/-- Nothing but blanks. -/
def Blank (cs : List Char) : Prop := ∀ c ∈ cs, isBlank c = true

theorem Blank.append {a b : List Char} (ha : Blank a) (hb : Blank b) : Blank (a ++ b) := by
  intro c hc
  exact (List.mem_append.1 hc).elim (ha c) (hb c)

theorem exists_blank (cs : List Char) : ∃ a, Blank a ∧ cs = a ++ skipBlanks cs :=
  ⟨cs.takeWhile isBlank, fun _ hc => List.mem_takeWhile_imp hc, List.takeWhile_append_dropWhile.symm⟩

theorem skipBlanks_append {a : List Char} (h : Blank a) (cs : List Char) :
    skipBlanks (a ++ cs) = skipBlanks cs := by
  simp [skipBlanks, List.dropWhile_append_of_pos h]

/-- A text behind blanks is found if it does not start with one. -/
theorem skipBlanks_append_cons {a : List Char} (h : Blank a) {c : Char} (hc : isBlank c = false)
    (cs : List Char) : skipBlanks (a ++ c :: cs) = c :: cs := by
  rw [skipBlanks_append h, skipBlanks_cons hc]

/-- Blanks are followed by no part of a number. -/
theorem endsNumber_blank_append {b : List Char} (h : Blank b) {rest : List Char}
    (hrest : EndsNumber rest) : EndsNumber (b ++ rest) := by
  cases b with
  | nil => exact hrest
  | cons c b =>
    have hc := h c (by simp)
    intro d hd
    cases hd
    simp only [isBlank, Bool.or_eq_true, beq_iff_eq] at hc
    rcases hc with ((rfl | rfl) | rfl) | rfl <;> decide

/-! ## Texts in quotes -/

/-- The characters with a short escape, which is a backslash and a letter. -/
inductive Letter : Char → Char → Prop
  | quote : Letter '"' '"'
  | backslash : Letter '\\' '\\'
  | slash : Letter '/' '/'
  | backspace : Letter 'b' '\x08'
  | formFeed : Letter 'f' '\x0c'
  | lineFeed : Letter 'n' '\n'
  | carriageReturn : Letter 'r' '\x0d'
  | tab : Letter 't' '\t'

/-- The unit is a half of a surrogate pair. -/
def isHalf (n : Nat) : Bool := isHighHalf n || isLowHalf n

/-- A unit that is written with four hexadecimal digits. -/
inductive Escaped : List Char → Nat → Prop
  | mk {a b c d : Char} {n : Nat} (value : hexUnit? a b c d = some n) :
      Escaped ['\\', 'u', a, b, c, d] n

/-- The text starts with the second half of a surrogate pair. -/
def StartsLow (cs : List Char) : Prop :=
  ∃ u low rest, Escaped u low ∧ isLowHalf low = true ∧ cs = u ++ rest

/-- The character of a surrogate pair. -/
def pairChar (high low : Nat) : Char := Char.ofNat (0x10000 + (high - 0xd800) * 0x400 + (low - 0xdc00))

/-- The texts up to and with a closing quote, with the characters that they write. In a text that is
passed over a half of a surrogate pair may stand without its partner. -/
inductive Quoted (skipping : Bool) : List Char → List Char → Prop
  | close : Quoted skipping ['"'] []
  | plain {c : Char} {cs s : List Char} (quote : c ≠ '"') (backslash : c ≠ '\\')
      (control : 0x20 ≤ c.toNat) (rest : Quoted skipping cs s) : Quoted skipping (c :: cs) (c :: s)
  | letter {l c : Char} {cs s : List Char} (isLetter : Letter l c) (rest : Quoted skipping cs s) :
      Quoted skipping ('\\' :: l :: cs) (c :: s)
  | unit {u cs s : List Char} {n : Nat} (escaped : Escaped u n) (whole : isHalf n = false)
      (rest : Quoted skipping cs s) : Quoted skipping (u ++ cs) (Char.ofNat n :: s)
  | pair {u w cs s : List Char} {high low : Nat} (escapedHigh : Escaped u high)
      (isHigh : isHighHalf high = true) (escapedLow : Escaped w low) (isLow : isLowHalf low = true)
      (rest : Quoted skipping cs s) : Quoted skipping (u ++ (w ++ cs)) (pairChar high low :: s)
  | lone {u cs s : List Char} {n : Nat} (skips : skipping = true) (escaped : Escaped u n)
      (half : isHalf n = true) (alone : isHighHalf n = true → ¬ StartsLow cs)
      (rest : Quoted skipping cs s) : Quoted skipping (u ++ cs) (replacement :: s)

theorem startsLow_unit_iff {e f g i : Char} {t : List Char} :
    StartsLow ('\\' :: 'u' :: e :: f :: g :: i :: t) ↔
      ∃ low, hexUnit? e f g i = some low ∧ isLowHalf low = true := by
  constructor
  · rintro ⟨u, low, rest, ⟨value⟩, hlow, heq⟩
    cases heq
    exact ⟨low, value, hlow⟩
  · rintro ⟨low, value, hlow⟩
    exact ⟨_, low, t, ⟨value⟩, hlow, rfl⟩

theorem StartsLow.exists_unit {cs : List Char} (h : StartsLow cs) :
    ∃ e f g i t, cs = '\\' :: 'u' :: e :: f :: g :: i :: t := by
  obtain ⟨u, low, rest, ⟨value⟩, -, rfl⟩ := h
  exact ⟨_, _, _, _, rest, rfl⟩

theorem StartsLow.append {cs : List Char} (h : StartsLow cs) (rest : List Char) :
    StartsLow (cs ++ rest) := by
  obtain ⟨u, low, t, escaped, hlow, rfl⟩ := h
  exact ⟨u, low, t ++ rest, escaped, hlow, List.append_assoc u t rest⟩

theorem readString_letter (skipping : Bool) {l c : Char} (h : Letter l c) (cs : List Char) :
    readString skipping ('\\' :: l :: cs) = (readString skipping cs).map fun (s, r) => (c :: s, r) := by
  cases h <;> rw [readString]

theorem readString_plain (skipping : Bool) {c : Char} (hquote : c ≠ '"') (hslash : c ≠ '\\')
    (hcontrol : 0x20 ≤ c.toNat) (cs : List Char) :
    readString skipping (c :: cs) = (readString skipping cs).map fun (s, r) => (c :: s, r) := by
  rw [readString, if_neg (not_lt.2 hcontrol)]
  · exact hquote
  all_goals
    intros
    exact hslash ‹c = '\\'›

theorem readString_unit (skipping : Bool) {u : List Char} {n : Nat} (h : Escaped u n)
    (hn : isHalf n = false) (cs : List Char) :
    readString skipping (u ++ cs) =
      (readString skipping cs).map fun (s, r) => (Char.ofNat n :: s, r) := by
  obtain ⟨value⟩ := h
  have hhalf := Bool.or_eq_false_iff.1 hn
  by_cases hpair : ∃ e f g i t, cs = '\\' :: 'u' :: e :: f :: g :: i :: t
  · obtain ⟨e, f, g, i, t, rfl⟩ := hpair
    simp [readString, value, hhalf.1, hhalf.2]
  · have hpair' : ∀ e f g i t, cs = '\\' :: 'u' :: e :: f :: g :: i :: t → False :=
      fun e f g i t heq => hpair ⟨e, f, g, i, t, heq⟩
    simp only [List.cons_append, List.nil_append]
    rw [readString]
    · simp [value, hhalf.1, hhalf.2]
    · exact hpair'

theorem readString_pair (skipping : Bool) {u w : List Char} {high low : Nat} (hu : Escaped u high)
    (hhigh : isHighHalf high = true) (hw : Escaped w low) (hlow : isLowHalf low = true)
    (cs : List Char) :
    readString skipping (u ++ (w ++ cs)) =
      (readString skipping cs).map fun (s, r) => (pairChar high low :: s, r) := by
  obtain ⟨value⟩ := hu
  obtain ⟨value'⟩ := hw
  simp [readString, value, value', hhigh, hlow, pairChar]

theorem readString_lone {u : List Char} {n : Nat} (h : Escaped u n) (hn : isHalf n = true)
    {cs : List Char} (halone : isHighHalf n = true → ¬ StartsLow cs) :
    readString true (u ++ cs) = (readString true cs).map fun (s, r) => (replacement :: s, r) := by
  obtain ⟨value⟩ := h
  unfold isHalf at hn
  by_cases hpair : ∃ e f g i t, cs = '\\' :: 'u' :: e :: f :: g :: i :: t
  · obtain ⟨e, f, g, i, t, rfl⟩ := hpair
    simp only [List.cons_append, List.nil_append]
    rw [readString, value]
    dsimp only
    split
    · next low hhigh hlow =>
      rw [if_neg fun h => halone hhigh (startsLow_unit_iff.2 ⟨low, hlow, h⟩), if_pos rfl]
    · rw [if_pos hn, if_pos rfl]
  · simp only [List.cons_append, List.nil_append]
    rw [readString, value]
    · dsimp only
      rw [if_pos hn, if_pos rfl]
    · exact fun e f g i t heq => hpair ⟨e, f, g, i, t, heq⟩

/-- One more character in front of a text in quotes. -/
theorem written_of_map {skipping : Bool} {cs s rest : List Char} {c : Char} (u : List Char)
    (ih : ∀ {s rest : List Char}, readString skipping cs = some (s, rest) →
      ∃ t, cs = t ++ rest ∧ Quoted skipping t s)
    (h : ((readString skipping cs).map fun (s, r) => (c :: s, r)) = some (s, rest))
    (build : ∀ {t s : List Char}, cs = t ++ rest → Quoted skipping t s →
      Quoted skipping (u ++ t) (c :: s)) :
    ∃ t, u ++ cs = t ++ rest ∧ Quoted skipping t s := by
  obtain ⟨⟨s', r⟩, hread, heq⟩ := Option.map_eq_some_iff.1 h
  cases heq
  obtain ⟨t, ht, hquoted⟩ := ih hread
  exact ⟨u ++ t, by rw [ht, List.append_assoc], build ht hquoted⟩

theorem written_of_letter {skipping : Bool} {cs s rest : List Char} {l c : Char} (isLetter : Letter l c)
    (ih : ∀ {s rest : List Char}, readString skipping cs = some (s, rest) →
      ∃ t, cs = t ++ rest ∧ Quoted skipping t s)
    (h : ((readString skipping cs).map fun (s, r) => (c :: s, r)) = some (s, rest)) :
    ∃ t, '\\' :: l :: cs = t ++ rest ∧ Quoted skipping t s :=
  written_of_map ['\\', l] ih h fun _ => .letter isLetter

/-- What is read up to a closing quote is what the text writes. -/
theorem written_of_readString {skipping : Bool} {cs s rest : List Char}
    (h : readString skipping cs = some (s, rest)) : ∃ t, cs = t ++ rest ∧ Quoted skipping t s := by
  -- The cases are those of the reader; a half without its partner has none behind it, because the
  -- reader looks for one first.
  fun_induction readString skipping cs generalizing s rest with
  | case1 rest' =>
    cases h
    exact ⟨['"'], rfl, .close⟩
  | case2 cs ih => exact written_of_letter .quote ih h
  | case3 cs ih => exact written_of_letter .backslash ih h
  | case4 cs ih => exact written_of_letter .slash ih h
  | case5 cs ih => exact written_of_letter .backspace ih h
  | case6 cs ih => exact written_of_letter .formFeed ih h
  | case7 cs ih => exact written_of_letter .lineFeed ih h
  | case8 cs ih => exact written_of_letter .carriageReturn ih h
  | case9 cs ih => exact written_of_letter .tab ih h
  | case10 => cases h
  | case11 a b c d e f g i cs high value low value' hhigh hlow ih =>
    exact written_of_map ['\\', 'u', a, b, c, d, '\\', 'u', e, f, g, i] ih h
      fun _ => .pair ⟨value⟩ hhigh ⟨value'⟩ hlow
  | case12 a b c d e f g i cs high value low value' hhigh hlow skips ih =>
    refine written_of_map ['\\', 'u', a, b, c, d] ih h fun heq =>
      .lone skips ⟨value⟩ (by simp [isHalf, hhigh]) fun _ hstarts => ?_
    obtain ⟨low', hlow', isLow⟩ := startsLow_unit_iff.1 (heq ▸ hstarts.append _)
    rw [value', Option.some.injEq] at hlow'
    exact hlow (hlow' ▸ isLow)
  | case13 => cases h
  | case14 a b c d e f g i cs high value half skips other ih =>
    refine written_of_map ['\\', 'u', a, b, c, d] ih h fun heq =>
      .lone skips ⟨value⟩ half fun hhigh hstarts => ?_
    obtain ⟨low, hlow, -⟩ := startsLow_unit_iff.1 (heq ▸ hstarts.append _)
    exact other low hhigh hlow
  | case15 => cases h
  | case16 a b c d e f g i cs high value half other ih =>
    exact written_of_map ['\\', 'u', a, b, c, d] ih h
      fun _ => .unit ⟨value⟩ (Bool.eq_false_of_not_eq_true half)
  | case17 => cases h
  | case18 a b c d cs other high value half skips ih =>
    refine written_of_map ['\\', 'u', a, b, c, d] ih h fun heq =>
      .lone skips ⟨value⟩ half fun _ hstarts => ?_
    obtain ⟨e, f, g, i, t, hunit⟩ := (hstarts.append _).exists_unit
    exact other e f g i t (heq.trans hunit)
  | case19 => cases h
  | case20 a b c d cs other n value half ih =>
    exact written_of_map ['\\', 'u', a, b, c, d] ih h
      fun _ => .unit ⟨value⟩ (Bool.eq_false_of_not_eq_true half)
  | case21 => cases h
  | case22 => cases h
  | case23 c cs quote _ _ _ _ _ _ _ _ _ _ backslash control ih =>
    exact written_of_map [c] ih h
      fun _ => .plain quote (fun heq => backslash heq) (not_lt.1 control)
  | case24 => cases h

/-- Whether a text in quotes starts with the second half of a pair does not depend on what stands behind
its closing quote. -/
theorem Quoted.startsLow_of_append {skipping : Bool} {cs s rest : List Char} (h : Quoted skipping cs s)
    (hstarts : StartsLow (cs ++ rest)) : StartsLow cs := by
  cases h with
  | close =>
    obtain ⟨e, f, g, i, t, heq⟩ := hstarts.exists_unit
    cases heq
  | plain _ backslash _ _ =>
    obtain ⟨e, f, g, i, t, heq⟩ := hstarts.exists_unit
    exact absurd (List.cons.inj heq).1 backslash
  | letter isLetter _ =>
    obtain ⟨e, f, g, i, t, heq⟩ := hstarts.exists_unit
    obtain rfl := (List.cons.inj (List.cons.inj heq).2).1
    cases isLetter
  | unit escaped _ _ =>
    obtain ⟨value⟩ := escaped
    exact startsLow_unit_iff.2 (startsLow_unit_iff.1 hstarts)
  | pair escapedHigh _ _ _ _ =>
    obtain ⟨value⟩ := escapedHigh
    exact startsLow_unit_iff.2 (startsLow_unit_iff.1 hstarts)
  | lone _ escaped _ _ _ =>
    obtain ⟨value⟩ := escaped
    exact startsLow_unit_iff.2 (startsLow_unit_iff.1 hstarts)

theorem readString_written {skipping : Bool} {t s : List Char} (h : Quoted skipping t s)
    (rest : List Char) : readString skipping (t ++ rest) = some (s, rest) := by
  induction h with
  | close => rw [List.singleton_append, readString]
  | plain quote backslash control _ ih =>
    rw [List.cons_append, readString_plain skipping quote backslash control, ih, Option.map_some]
  | letter isLetter _ ih =>
    rw [List.cons_append, List.cons_append, readString_letter skipping isLetter, ih, Option.map_some]
  | unit escaped whole _ ih =>
    rw [List.append_assoc, readString_unit skipping escaped whole, ih, Option.map_some]
  | pair escapedHigh isHigh escapedLow isLow _ ih =>
    rw [List.append_assoc, List.append_assoc,
      readString_pair skipping escapedHigh isHigh escapedLow isLow, ih, Option.map_some]
  | lone skips escaped half alone hrest ih =>
    subst skips
    rw [List.append_assoc, readString_lone escaped half fun hhigh hstarts =>
      alone hhigh (hrest.startsLow_of_append hstarts), ih, Option.map_some]

/-- Exactly the texts in quotes are read. -/
theorem readString_iff {skipping : Bool} {cs s rest : List Char} :
    readString skipping cs = some (s, rest) ↔ ∃ t, cs = t ++ rest ∧ Quoted skipping t s := by
  constructor
  · exact written_of_readString
  · rintro ⟨t, rfl, ht⟩
    exact readString_written ht rest

end Lookout.Json
