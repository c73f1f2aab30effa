import Lookout.Text.Blank
import Lookout.Text.Lowercase
import Lookout.Text.Search
import Mathlib.Data.List.Infix

/-!
# Lower case in context

The lower-case form of a part of a text is that of the part alone, but for the capital sigmas, whose form
depends on the letters around them. Here the part is looked at between the characters in front of it and
those behind it: where it is settled what becomes of its sigmas, they do not matter.

* **`lowercase_append_append`** — the lower-case form of a text in three parts.
* **`keepsSigmas_iff`** — where a part of a text has the lower-case form that it has alone.
* **`keepsSigmas_of_settled`**, **`keepsSigmas_apart`**, **`not_keepsSigmas`** — a settled part has it
  everywhere, any part where no letter is in sight, and a part that is not settled not next to every letter.
* **`infix_lowercase_iff`** — the texts that are found in lower case wherever they stand.
-/

namespace Lookout.Text

/-- A capital sigma between two texts, the first one nearest first, is the last letter of a word. -/
def isFinal (before after : List Char) : Bool := startsCased before && !startsCased after

/-- The lower-case form of a character between two texts, the first one nearest first. -/
def lowercaseHere (before : List Char) (c : Char) (after : List Char) : List Char :=
  if c = 'Σ' then (if isFinal before after then ['ς'] else ['σ']) else lowercaseChar c

/-- The lower-case form of a part between two texts, the first one nearest first. -/
def lowercaseIn (before : List Char) : List Char → List Char → List Char
  | [], _ => []
  | c :: part, after =>
    lowercaseHere before c (part ++ after) ++ lowercaseIn (c :: before) part after

/-- The form of a capital sigma between two parts does not depend on what is around them: if there is no
letter behind it then one in front of it, and a letter in front of it means that something stands behind
it which is not passed over. -/
def isSettledAt (before after : List Char) : Bool :=
  (startsCased after || !before.all isCaseIgnorable) &&
    (!startsCased before || !after.all isCaseIgnorable)

/-- The forms of all capital sigmas of a part are settled; `before` is the beginning of the part, nearest
first. -/
def isSettledAfter (before : List Char) : List Char → Bool
  | [] => true
  | c :: rest => (c ≠ 'Σ' || isSettledAt before rest) && isSettledAfter (c :: before) rest

/-- The forms of all capital sigmas of a text are settled, whatever stands around it. -/
def isSettled (part : List Char) : Bool := isSettledAfter [] part

/-! ## Letters in sight -/

theorem startsCased_cons (c : Char) (cs : List Char) :
    startsCased (c :: cs) = if isCaseIgnorable c then startsCased cs else isCased c := by
  cases h : isCaseIgnorable c <;> simp [startsCased, h]

/-- Characters that are passed over do not count. -/
theorem startsCased_of_all {cs : List Char} (h : cs.all isCaseIgnorable = true) (more : List Char) :
    startsCased (cs ++ more) = startsCased more := by
  rw [startsCased, List.dropWhile_append_of_pos (List.all_eq_true.1 h)]
  rfl

/-- What stands behind a character that is not passed over does not count. -/
theorem startsCased_of_not_all {cs : List Char} (h : cs.all isCaseIgnorable = false) (more : List Char) :
    startsCased (cs ++ more) = startsCased cs := by
  induction cs with
  | nil => cases h
  | cons c cs ih =>
    rw [List.cons_append, startsCased_cons, startsCased_cons]
    cases hc : isCaseIgnorable c with
    | true =>
      rw [List.all_cons, hc, Bool.true_and] at h
      rw [if_pos rfl, if_pos rfl, ih h]
    | false => rfl

theorem startsCased_all {cs : List Char} (h : cs.all isCaseIgnorable = true) : startsCased cs = false := by
  have hcs := startsCased_of_all h []
  rwa [List.append_nil] at hcs

/-- No letter comes in sight from outside. -/
theorem startsCased_append {more : List Char} (h : startsCased more = false) (cs : List Char) :
    startsCased (cs ++ more) = startsCased cs := by
  cases hall : cs.all isCaseIgnorable with
  | true => rw [startsCased_of_all hall, h, startsCased_all hall]
  | false => exact startsCased_of_not_all hall more

/-- The form of a settled sigma is the same in any surroundings. -/
theorem isFinal_of_settled {before after : List Char} (h : isSettledAt before after = true)
    (front back : List Char) : isFinal (before ++ front) (after ++ back) = isFinal before after := by
  simp only [isSettledAt, Bool.and_eq_true, Bool.or_eq_true, Bool.not_eq_true'] at h
  obtain ⟨hfront, hback⟩ := h
  unfold isFinal
  cases hbefore : before.all isCaseIgnorable with
  | true =>
    -- Something behind the sigma settles its form.
    have hcased : startsCased after = true := by simpa [hbefore] using hfront
    have hafter : after.all isCaseIgnorable = false := by
      cases hall : after.all isCaseIgnorable with
      | true => rw [startsCased_all hall] at hcased; cases hcased
      | false => rfl
    rw [startsCased_of_not_all hafter, hcased, Bool.not_true, Bool.and_false, Bool.and_false]
  | false =>
    rw [startsCased_of_not_all hbefore]
    rcases hback with hnone | hafter
    · rw [hnone, Bool.false_and, Bool.false_and]
    · rw [startsCased_of_not_all hafter]

/-- The form of a sigma that is not settled is another one next to a letter. -/
theorem isFinal_ne {before after : List Char} (h : isSettledAt before after = false) {letter : Char}
    (cased : isCased letter = true) (counts : isCaseIgnorable letter = false) :
    isFinal (before ++ [letter]) after ≠ isFinal before after ∨
      isFinal before (after ++ [letter]) ≠ isFinal before after := by
  have hletter : startsCased [letter] = true := by rw [startsCased_cons, counts, cased]; rfl
  simp only [isSettledAt, Bool.and_eq_false_iff, Bool.or_eq_false_iff, Bool.not_eq_false'] at h
  unfold isFinal
  rcases h with ⟨hafter, hbefore⟩ | ⟨hbefore, hafter⟩
  · left
    rw [startsCased_of_all hbefore, startsCased_all hbefore, hletter, hafter]
    decide
  · right
    rw [startsCased_of_all hafter, startsCased_all hafter, hletter, hbefore]
    decide

/-! ## Parts of a text -/

@[simp] theorem lowercaseIn_nil (before after : List Char) : lowercaseIn before [] after = [] := rfl

theorem lowercaseAfter_eq (before cs : List Char) : lowercaseAfter before cs = lowercaseIn before cs [] := by
  induction cs generalizing before with
  | nil => rfl
  | cons c cs ih =>
    rw [lowercaseAfter, lowercaseIn, ih, List.append_nil]
    rfl

theorem lowercaseIn_append (before part more after : List Char) :
    lowercaseIn before (part ++ more) after =
      lowercaseIn before part (more ++ after) ++ lowercaseIn (part.reverse ++ before) more after := by
  induction part generalizing before with
  | nil => rfl
  | cons c part ih =>
    rw [List.cons_append, lowercaseIn, lowercaseIn, ih, List.append_assoc, List.append_assoc,
      List.reverse_cons, List.append_assoc, List.singleton_append]

/-- The lower-case form of a text in three parts. -/
theorem lowercase_append_append (front part back : List Char) :
    lowercase (front ++ part ++ back) =
      lowercaseIn [] front (part ++ back) ++ lowercaseIn front.reverse part back ++
        lowercaseIn (front ++ part).reverse back [] := by
  rw [lowercase, lowercaseAfter_eq, lowercaseIn_append, lowercaseIn_append]
  simp only [List.append_nil, List.reverse_append, List.append_assoc]

theorem lowercase_eq (cs : List Char) : lowercase cs = lowercaseIn [] cs [] := lowercaseAfter_eq [] cs

theorem length_lowercaseHere (before after before' after' : List Char) (c : Char) :
    (lowercaseHere before c after).length = (lowercaseHere before' c after').length := by
  unfold lowercaseHere
  split
  · split <;> split <;> rfl
  · rfl

/-- What is around a part does not change how long its lower-case form is. -/
theorem length_lowercaseIn (before after before' after' part : List Char) :
    (lowercaseIn before part after).length = (lowercaseIn before' part after').length := by
  induction part generalizing before before' with
  | nil => rfl
  | cons c part ih =>
    rw [lowercaseIn, lowercaseIn, List.length_append, List.length_append, ih (c :: before) (c :: before'),
      length_lowercaseHere before _ before' (part ++ after')]

/-- What holds of every capital sigma of a text, by its first character. -/
theorem forall_sigma_cons {c : Char} {cs : List Char} {P : List Char → List Char → Prop} :
    (∀ front back, c :: cs = front ++ 'Σ' :: back → P front back) ↔
      (c = 'Σ' → P [] cs) ∧ ∀ front back, cs = front ++ 'Σ' :: back → P (c :: front) back := by
  constructor
  · intro h
    exact ⟨fun hc => h [] cs (by rw [hc]; rfl), fun front back heq => h (c :: front) back (by rw [heq]; rfl)⟩
  · rintro ⟨hhere, hrest⟩ front back heq
    cases front with
    | nil =>
      obtain ⟨hc, rfl⟩ := List.cons.inj heq
      exact hhere hc
    | cons d front =>
      obtain ⟨rfl, hcs⟩ := List.cons.inj heq
      exact hrest front back hcs

theorem lowercaseHere_eq_iff {before after before' after' : List Char} {c : Char} :
    lowercaseHere before c after = lowercaseHere before' c after' ↔
      (c = 'Σ' → isFinal before after = isFinal before' after') := by
  unfold lowercaseHere
  split
  · next hc =>
    cases isFinal before after <;> cases isFinal before' after' <;> simp [hc]
  · next hc => exact iff_of_true rfl fun h => absurd h hc

/-- Two forms of a part are the same if the forms of its capital sigmas are. -/
theorem lowercaseIn_eq_iff {before after before' after' part : List Char} :
    lowercaseIn before part after = lowercaseIn before' part after' ↔
      ∀ front back, part = front ++ 'Σ' :: back →
        isFinal (front.reverse ++ before) (back ++ after) =
          isFinal (front.reverse ++ before') (back ++ after') := by
  induction part generalizing before before' with
  | nil => simp
  | cons c part ih =>
    rw [forall_sigma_cons, lowercaseIn, lowercaseIn,
      List.append_eq_append_iff_of_size_eq_left (length_lowercaseHere _ _ _ _ _), lowercaseHere_eq_iff, ih]
    simp only [List.reverse_nil, List.nil_append, List.reverse_cons, List.append_assoc,
      List.singleton_append]

theorem isSettledAfter_iff {before part : List Char} :
    isSettledAfter before part = true ↔
      ∀ front back, part = front ++ 'Σ' :: back → isSettledAt (front.reverse ++ before) back = true := by
  induction part generalizing before with
  | nil => simp [isSettledAfter]
  | cons c part ih =>
    rw [forall_sigma_cons, isSettledAfter, Bool.and_eq_true, ih, Bool.or_eq_true, decide_eq_true_eq,
      ← imp_iff_not_or]
    simp only [List.reverse_nil, List.nil_append, List.reverse_cons, List.append_assoc,
      List.singleton_append]

/-- Between two texts, each capital sigma of a part ends a word if it does in the part alone. -/
def KeepsSigmas (front part back : List Char) : Prop :=
  ∀ before after, part = before ++ 'Σ' :: after →
    isFinal (before.reverse ++ front.reverse) (after ++ back) = isFinal before.reverse after

theorem keepsSigmas_iff {front part back : List Char} :
    KeepsSigmas front part back ↔ lowercaseIn front.reverse part back = lowercase part := by
  rw [lowercase_eq, lowercaseIn_eq_iff]
  simp only [KeepsSigmas, List.append_nil]

/-- Settled sigmas keep their form in any surroundings. -/
theorem keepsSigmas_of_settled {part : List Char} (h : isSettled part = true) (front back : List Char) :
    KeepsSigmas front part back := by
  intro before after heq
  have hsettled := isSettledAfter_iff.1 h before after heq
  rw [List.append_nil] at hsettled
  exact isFinal_of_settled hsettled _ _

/-- Sigmas keep their form where no letter is in sight around their text. -/
theorem keepsSigmas_apart {front back : List Char} (hfront : startsCased front.reverse = false)
    (hback : startsCased back = false) (part : List Char) : KeepsSigmas front part back := by
  intro before after _
  rw [isFinal, startsCased_append hfront, startsCased_append hback]
  rfl

/-- A text that is not settled has another form next to a letter. -/
theorem not_keepsSigmas {part : List Char} (h : isSettled part = false) {letter : Char}
    (cased : isCased letter = true) (counts : isCaseIgnorable letter = false) :
    ¬KeepsSigmas [letter] part [] ∨ ¬KeepsSigmas [] part [letter] := by
  have hunsettled : ∃ front back, part = front ++ 'Σ' :: back ∧ isSettledAt front.reverse back = false := by
    by_contra hnone
    refine Bool.eq_false_iff.1 h (isSettledAfter_iff.2 fun front back heq => ?_)
    rw [List.append_nil]
    by_contra hsettled
    exact hnone ⟨front, back, heq, Bool.eq_false_iff.2 hsettled⟩
  obtain ⟨front, back, heq, hsettled⟩ := hunsettled
  refine (isFinal_ne hsettled cased counts).imp (fun hne keeps => hne ?_) fun hne keeps => hne ?_
  · rw [← keeps front back heq, List.reverse_singleton, List.append_nil]
  · rw [← keeps front back heq, List.reverse_nil, List.append_nil]

/-! ## Texts that are found -/

theorem isWithin_eq_true_iff {part cs : List Char} : isWithin part cs = true ↔ part <:+: cs := by
  constructor
  · intro h
    induction cs with
    | nil =>
      rw [isWithin, List.isEmpty_iff] at h
      exact h ▸ List.infix_refl []
    | cons c cs ih =>
      rw [isWithin, Bool.or_eq_true] at h
      rcases h with hprefix | hrest
      · exact (List.isPrefixOf_iff_prefix.1 hprefix).isInfix
      · exact (ih hrest).trans (List.suffix_cons c cs).isInfix
  · rintro ⟨front, back, rfl⟩
    rw [List.append_assoc]
    exact isWithin_append front part back

/-- A letter that is its own lower-case form and neither the first nor the last character of a text. -/
theorem exists_letter (cs : List Char) : ∃ x, isCased x = true ∧ isCaseIgnorable x = false ∧
    (∀ before after, lowercaseHere before x after = [x]) ∧ cs.head? ≠ some x ∧ cs.getLast? ≠ some x := by
  have plain : ∀ x ∈ ['a', 'b', 'c'],
      x ≠ 'Σ' ∧ isCased x = true ∧ isCaseIgnorable x = false ∧ lowercaseChar x = [x] := by
    simp only [List.mem_cons, List.not_mem_nil, or_false, forall_eq_or_imp, forall_eq]
    decide +kernel
  -- Of three letters one is neither the first character nor the last one.
  have hfree : ∃ x ∈ ['a', 'b', 'c'], cs.head? ≠ some x ∧ cs.getLast? ≠ some x := by
    by_contra hnone
    simp only [List.mem_cons, List.not_mem_nil, or_false, exists_eq_or_imp, exists_eq_left, not_or,
      not_and_or, not_not] at hnone
    obtain ⟨ha | ha, hb | hb, hc | hc⟩ := hnone <;> simp_all
  obtain ⟨x, hx, hhead, hlast⟩ := hfree
  obtain ⟨hother, hcased, hcounts, hself⟩ := plain x hx
  exact ⟨x, hcased, hcounts, fun before after => by rw [lowercaseHere, if_neg hother, hself], hhead, hlast⟩

/-- A text within one that is longer by a first character which is not its own is the rest of it. -/
theorem eq_of_infix_cons {part cs : List Char} {x : Char} (hlen : part.length = cs.length)
    (hhead : part.head? ≠ some x) (h : part <:+: x :: cs) : part = cs := by
  rcases List.infix_cons_iff.1 h with hprefix | hinfix
  · cases part with
    | nil => exact (List.length_eq_zero_iff.1 hlen.symm).symm
    | cons y part =>
      rw [List.cons_prefix_cons] at hprefix
      exact absurd (congrArg some hprefix.1) hhead
  · exact hinfix.eq_of_length hlen

theorem eq_of_infix_concat {part cs : List Char} {x : Char} (hlen : part.length = cs.length)
    (hlast : part.getLast? ≠ some x) (h : part <:+: cs ++ [x]) : part = cs := by
  have hreversed : part.reverse <:+: x :: cs.reverse := by
    rw [← List.reverse_concat', List.reverse_infix]
    exact h
  refine List.reverse_injective (eq_of_infix_cons ?_ ?_ hreversed)
  · rw [List.length_reverse, List.length_reverse, hlen]
  · rwa [List.head?_reverse]

/-- A text that keeps its sigmas is found in lower case. -/
theorem infix_lowercase {front part back : List Char} (h : KeepsSigmas front part back) :
    lowercase part <:+: lowercase (front ++ part ++ back) := by
  rw [lowercase_append_append, keepsSigmas_iff.1 h]
  exact ⟨_, _, rfl⟩

/-- The texts that are found in lower case wherever they stand. -/
theorem infix_lowercase_iff (part : List Char) :
    (∀ front back, lowercase part <:+: lowercase (front ++ part ++ back)) ↔ isSettled part = true := by
  constructor
  · intro hfound
    by_contra hsettled
    -- Next to a letter that is neither end of its lower-case form, the text is not found.
    obtain ⟨x, hcased, hcounts, hself, hhead, hlast⟩ := exists_letter (lowercase part)
    have hletter : ∀ before after, lowercaseIn before [x] after = [x] := fun before after => by
      rw [lowercaseIn, hself, lowercaseIn_nil, List.append_nil]
    have hlen : ∀ before after, (lowercase part).length = (lowercaseIn before part after).length :=
      fun before after => by rw [lowercase_eq, length_lowercaseIn]
    rcases not_keepsSigmas (Bool.eq_false_iff.2 hsettled) hcased hcounts with hne | hne
    · have hin := hfound [x] []
      rw [lowercase_append_append, hletter, lowercaseIn_nil, List.append_nil, List.singleton_append] at hin
      exact hne (keepsSigmas_iff.2 (eq_of_infix_cons (hlen _ _) hhead hin).symm)
    · have hin := hfound [] [x]
      rw [lowercase_append_append, hletter, lowercaseIn_nil, List.nil_append] at hin
      exact hne (keepsSigmas_iff.2 (eq_of_infix_concat (hlen _ _) hlast hin).symm)
  · exact fun hsettled front back => infix_lowercase (keepsSigmas_of_settled hsettled front back)

/-- Sigmas at the start and inside of a word are settled, not so the one at its end. -/
example : isSettled "ΣΟΣΑ".toList = true ∧ isSettled "ΟΣ".toList = false := by decide +kernel

end Lookout.Text
