import Lookout.Proofs.Url.Authority

/-!
# Schemes

An address is cleaned before it is read: blanks at its ends and a few control characters are taken out.
What stands before the first colon is its scheme, if it starts with a letter and holds no other
characters than those of a scheme.

* **`filter_cleanInput`** — nothing that is visible is taken out.
* **`takeScheme?_stop`** — the scheme is settled by the first character that cannot stand in one.
-/

namespace Lookout.Url

/-! ## What is taken out -/

/-- The character stays where it stands inside an address. -/
def isKept (c : Char) : Bool := !(c == '\t' || c == '\n' || c == '\x0d')

theorem isKept_of_isVisible {c : Char} (h : isVisible c = true) : isKept c = true := by
  rw [isKept, Bool.not_eq_true', Bool.or_eq_false_iff, Bool.or_eq_false_iff]
  refine ⟨⟨?_, ?_⟩, ?_⟩ <;>
  · rw [beq_eq_false_iff_ne]
    rintro rfl
    cases h

theorem cleanInput_eq (cs : List Char) : cleanInput cs =
    (((cs.dropWhile (!isVisible ·)).reverse.dropWhile (!isVisible ·)).reverse).filter isKept := by
  have hblank : (fun c : Char => decide (c.toNat ≤ 0x20)) = (!isVisible ·) := by
    funext c
    rw [isVisible, ← decide_not]
    exact decide_eq_decide.2 Nat.not_lt.symm
  rw [← hblank]
  rfl

/-- The visible text behind the blanks at the start stays as it is. -/
theorem cleanInput_start {cs a b : List Char} (h : cs.dropWhile (!isVisible ·) = a ++ b)
    (visible : Visible a) (some : a ≠ []) : ∃ b', cleanInput cs = a ++ b' := by
  obtain ⟨init, c, rfl⟩ : ∃ init c, a = init ++ [c] := ⟨_, _, (List.dropLast_concat_getLast some).symm⟩
  have hc : (!isVisible c) = false := by
    rw [visible c (List.mem_append_right _ List.mem_cons_self)]
    rfl
  refine ⟨((b.reverse.dropWhile (!isVisible ·)).reverse).filter isKept, ?_⟩
  rw [cleanInput_eq, h, List.reverse_append, List.reverse_append, List.reverse_singleton,
    List.singleton_append, dropWhile_stop hc, List.reverse_append, List.reverse_cons, List.reverse_reverse,
    List.filter_append, List.filter_eq_self.2 fun d hd => isKept_of_isVisible (visible d hd)]

/-- A visible start of a text stays. -/
theorem cleanInput_append {a : List Char} (visible : Visible a) (some : a ≠ []) (b : List Char) :
    ∃ b', cleanInput (a ++ b) = a ++ b' := by
  have hstart : (a ++ b).dropWhile (!isVisible ·) = a ++ b := by
    obtain ⟨c, rest, rfl⟩ := List.exists_cons_of_ne_nil some
    exact List.dropWhile_cons_of_neg (by simp [visible c List.mem_cons_self])
  exact cleanInput_start hstart visible some

/-- From a text with a visible end nothing is taken but the blanks at its start and what is nowhere kept. -/
theorem cleanInput_concat {c : Char} (visible : isVisible c = true) (cs : List Char) :
    cleanInput (cs ++ [c]) = ((cs ++ [c]).dropWhile (!isVisible ·)).filter isKept := by
  have hc : (!isVisible c) = false := by simp [visible]
  rw [cleanInput_eq, dropWhile_stop hc cs [], List.reverse_append, List.reverse_singleton,
    List.singleton_append, List.dropWhile_cons_of_neg (by simp [hc]), List.reverse_cons, List.reverse_reverse]

/-- Of a text without blanks nothing is taken out. -/
theorem cleanInput_eq_self {cs : List Char} (visible : Visible cs) : cleanInput cs = cs := by
  have hstart {l : List Char} (h : Visible l) : l.dropWhile (!isVisible ·) = l := by
    cases l with
    | nil => rfl
    | cons c l => exact List.dropWhile_cons_of_neg (by simp [h c List.mem_cons_self])
  have hreverse : Visible cs.reverse := fun c hc => visible c (List.mem_reverse.1 hc)
  rw [cleanInput_eq, hstart visible, hstart hreverse, List.reverse_reverse, List.filter_eq_self]
  exact fun c hc => isKept_of_isVisible (visible c hc)

/-- Nothing that is visible is taken out. -/
theorem filter_cleanInput (cs : List Char) : (cleanInput cs).filter isVisible = cs.filter isVisible := by
  have hstart (l : List Char) : (l.dropWhile (!isVisible ·)).filter isVisible = l.filter isVisible := by
    induction l with
    | nil => rfl
    | cons c l ih =>
      cases hc : isVisible c with
      | true => simp [hc]
      | false => simpa [List.dropWhile_cons, hc] using ih
  have hkept : (fun c => isVisible c && isKept c) = isVisible := by
    funext c
    cases hc : isVisible c with
    | true => exact isKept_of_isVisible hc
    | false => rfl
  rw [cleanInput_eq, List.filter_filter, hkept, List.filter_reverse, hstart, List.filter_reverse,
    List.reverse_reverse, hstart]

/-- What is left starts with something visible. -/
theorem isVisible_of_cleanInput {cs rest : List Char} {c : Char} (h : cleanInput cs = c :: rest) :
    isVisible c = true := by
  cases hstart : cs.dropWhile (!isVisible ·) with
  | nil =>
    rw [cleanInput_eq, hstart] at h
    cases h
  | cons d l =>
    have hd : isVisible d = true := by
      have hhead := List.head?_dropWhile_not (!isVisible ·) cs
      rw [hstart] at hhead
      simpa using hhead
    have hvisible : Visible [d] := by
      intro e he
      rw [List.mem_singleton.1 he]
      exact hd
    obtain ⟨l', hclean⟩ := cleanInput_start hstart hvisible (List.cons_ne_nil d [])
    rw [(List.cons.inj (h.symm.trans hclean)).1]
    exact hd

/-! ## Schemes -/

/-- The character may stand in a scheme, behind its first letter. -/
def isSchemeChar (c : Char) : Bool := c.isAlphanum || c == '+' || c == '-' || c == '.'

theorem isVisible_of_isSchemeChar {c : Char} (h : isSchemeChar c = true) : isVisible c = true := by
  have hblanks : ∀ n < 0x21, isSchemeChar (Char.ofNat n) = false := by decide
  rw [isVisible, decide_eq_true_eq]
  by_contra hle
  rw [← Char.ofNat_toNat c, hblanks c.toNat (by omega)] at h
  cases h

/-- A scheme is what stands before a colon, if it starts with a letter. -/
theorem takeScheme?_eq_some_iff {cs scheme rest : List Char} : takeScheme? cs = some (scheme, rest) ↔
    ∃ lead, cs = lead ++ ':' :: rest ∧ lead.head?.any Char.isAlpha = true ∧
      (∀ c ∈ lead, isSchemeChar c = true) ∧ scheme = lead.map Char.toLower := by
  constructor
  · intro h
    unfold takeScheme? at h
    dsimp only at h
    split at h
    · cases h
    · next f cs =>
      split at h
      · next hf =>
        split at h
        · next heq =>
          obtain ⟨rfl, rfl⟩ := Prod.mk.inj (Option.some.inj h)
          have hinner : isSchemeChar f = true := by
            rw [isSchemeChar, Char.isAlphanum, hf]
            rfl
          refine ⟨(f :: cs).takeWhile isSchemeChar, ?_, ?_, fun c hc => List.mem_takeWhile_imp hc, rfl⟩
          · rw [← heq]
            exact List.takeWhile_append_dropWhile.symm
          · rw [List.takeWhile_cons_of_pos hinner]
            exact hf
        · cases h
      · cases h
  · rintro ⟨lead, rfl, hletter, hinner, rfl⟩
    cases lead with
    | nil => cases hletter
    | cons f lead =>
      have hcolon : isSchemeChar ':' = false := rfl
      have htake : (f :: lead ++ ':' :: rest).takeWhile isSchemeChar = f :: lead := by
        rw [takeWhile_stop hcolon, List.takeWhile_eq_self_iff.2 hinner]
      have hdrop : (f :: lead ++ ':' :: rest).dropWhile isSchemeChar = ':' :: rest := by
        rw [dropWhile_stop hcolon, List.dropWhile_eq_nil_iff.2 hinner]
        rfl
      have hf : f.isAlpha = true := hletter
      unfold isSchemeChar at htake hdrop
      simp only [List.cons_append] at htake hdrop ⊢
      simp only [takeScheme?, hf, if_true, hdrop, htake]

/-- The scheme is settled by a character that cannot stand in one, if it is not the colon behind it. -/
theorem takeScheme?_stop (a : List Char) {d : Char} (inner : isSchemeChar d = false) (colon : d ≠ ':') :
    (∀ r, takeScheme? (a ++ d :: r) = none) ∨
      ∃ scheme x k, a = x ++ ':' :: k ∧ ∀ r, takeScheme? (a ++ d :: r) = some (scheme, k ++ d :: r) := by
  rw [or_iff_not_imp_left]
  intro hsome
  obtain ⟨r, hr⟩ := not_forall.1 hsome
  obtain ⟨⟨scheme, rest⟩, htaken⟩ := Option.ne_none_iff_exists'.1 hr
  obtain ⟨lead, hsplit, hletter, hinner, rfl⟩ := takeScheme?_eq_some_iff.1 htaken
  rcases List.append_eq_append_iff.1 hsplit with ⟨k, hlead, hrest⟩ | ⟨k, rfl, hrest⟩
  · -- The colon cannot stand at the character or behind it.
    cases k with
    | nil => exact absurd (List.cons.inj hrest).1 colon
    | cons c k =>
      obtain ⟨rfl, -⟩ := List.cons.inj hrest
      rw [hinner d (hlead ▸ List.mem_append_right _ List.mem_cons_self)] at inner
      cases inner
  · cases k with
    | nil => exact absurd (List.cons.inj hrest).1.symm colon
    | cons c k =>
      obtain ⟨rfl, -⟩ := List.cons.inj hrest
      refine ⟨_, lead, k, rfl, fun r => takeScheme?_eq_some_iff.2 ⟨lead, ?_, hletter, hinner, rfl⟩⟩
      rw [List.append_assoc]
      rfl

theorem isSchemeChar_of_isStop {d : Char} (stop : isStop d = true) : isSchemeChar d = false ∧ d ≠ ':' := by
  simp only [isStop, Bool.or_eq_true, beq_iff_eq] at stop
  rcases stop with ((rfl | rfl) | rfl) | rfl <;> decide

/-- Behind such a character nothing makes a scheme any more. -/
theorem takeScheme?_none {a : List Char} {d : Char} (inner : isSchemeChar d = false) (colon : d ≠ ':')
    (h : takeScheme? (a ++ [d]) = none) (r : List Char) : takeScheme? (a ++ d :: r) = none := by
  rcases takeScheme?_stop a inner colon with hnone | ⟨scheme, x, k, -, hsome⟩
  · exact hnone r
  · cases h.symm.trans (hsome [])

/-- Blanks make no scheme: there is none if there is none without them. -/
theorem takeScheme?_cleanInput {cs : List Char} (h : takeScheme? (cs.filter isVisible) = none) :
    takeScheme? (cleanInput cs) = none := by
  rw [Option.eq_none_iff_forall_not_mem]
  rintro ⟨scheme, rest⟩ htaken
  obtain ⟨lead, hclean, hletter, hinner, rfl⟩ := takeScheme?_eq_some_iff.1 htaken
  have hvisible : ∀ c ∈ lead, isVisible c = true := fun c hc => isVisible_of_isSchemeChar (hinner c hc)
  have hfilter := filter_cleanInput cs
  rw [hclean, List.filter_append, List.filter_eq_self.2 hvisible, List.filter_cons_of_pos (by decide)] at hfilter
  rw [← hfilter, takeScheme?_eq_some_iff.2 ⟨lead, rfl, hletter, hinner, rfl⟩] at h
  cases h

end Lookout.Url
