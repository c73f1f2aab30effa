import Lookout.Proofs.Url.Scheme

/-!
# References with a fixed start

A reference is read once and for all up to a slash behind its authority, or up to the mark of its query or
its fragment. It stays under a base if its start does and the rest does not climb. So does one without a
scheme, from the place of the base on.

* **`reads_read`** — what a reference with a fixed start is read as.
* **`under_of_reads`** — it stays under a base if its start does and the rest does not climb.
* **`under_of_relative`** — a relative reference stays under a base if it does not climb.
* **`not_under_of_scheme`** — a reference with a scheme of its own does not.
-/

namespace Lookout.Url

/-! ## References without a scheme -/

theorem spanSlashes_eq (cs : List Char) :
    spanSlashes cs = ((cs.takeWhile (isSeparator true)).length, cs.dropWhile (isSeparator true)) := rfl

/-- How many slashes there are at a start is settled by the first other character. -/
theorem spanSlashes_stop {a : List Char} {d : Char}
    (named : isSeparator true d = true → ∃ c ∈ a, isSeparator true c = false) :
    ∃ n b, n ≤ a.length ∧ b ⊆ a ∧ ∀ r, spanSlashes (a ++ d :: r) = (n, b ++ d :: r) := by
  cases hd : isSeparator true d with
  | false =>
    refine ⟨(a.takeWhile (isSeparator true)).length, a.dropWhile (isSeparator true),
      (List.takeWhile_sublist _).length_le, List.dropWhile_subset _, fun r => ?_⟩
    rw [spanSlashes_eq, takeWhile_stop hd, dropWhile_stop hd]
  | true =>
    obtain ⟨c, hmem, hc⟩ := named hd
    obtain ⟨x, y, rfl⟩ := List.append_of_mem hmem
    refine ⟨(x.takeWhile (isSeparator true)).length, x.dropWhile (isSeparator true) ++ c :: y, ?_, ?_,
      fun r => ?_⟩
    · rw [List.length_append]
      exact Nat.le_trans (List.takeWhile_sublist _).length_le (Nat.le_add_right _ _)
    · exact List.append_subset.2 ⟨List.subset_append_of_subset_left _ (List.dropWhile_subset _),
        List.subset_append_right _ _⟩
    · rw [List.append_assoc, List.cons_append, spanSlashes_eq, takeWhile_stop hc, dropWhile_stop hc,
        List.append_assoc, List.cons_append]

theorem resolve_mark (base : Url) {m : Char} (mark : isMark m = true) (r : List Char) :
    ∃ query fragment, resolve base (m :: r) = .ok { base with query := query, fragment := fragment } := by
  simp only [isMark, Bool.or_eq_true, beq_iff_eq] at mark
  rcases mark with rfl | rfl
  · exact ⟨_, _, rfl⟩
  · exact ⟨base.query, _, rfl⟩

/-- How a reference is resolved that does not start with a mark: behind two slashes with an authority of its
own, behind one from the root, and otherwise from the place of the base. -/
theorem resolve_cons {base : Url} (special : base.isSpecial = true) {parts : List (List Char)}
    (hpath : base.path = .segments parts) {c : Char} (plain : isMark c = false) (cs : List Char) :
    resolve base (c :: cs) =
      if isSeparator true c then
        if 2 ≤ (spanSlashes (c :: cs)).1 then
          readAuthority base.scheme
            (if c = '/' ∧ cs.head? = some '/' then cs.tail else (spanSlashes (c :: cs)).2)
        else .ok (atPath base [] cs)
      else .ok (atPath base parts.dropLast (c :: cs)) := by
  unfold resolve
  simp only [special, hpath]
  split
  · next heq => cases heq
  · next heq =>
    cases heq
    cases plain
  · next heq =>
    cases heq
    cases plain
  · next heq =>
    obtain ⟨rfl, rfl⟩ := List.cons.inj heq
    split
    · split
      · split
        · next heq =>
          obtain ⟨rfl, rfl⟩ := List.cons.inj heq
          simp
        · next hother =>
          rw [if_neg]
          rintro ⟨rfl, hhead⟩
          obtain ⟨ys, rfl⟩ := List.head?_eq_some_iff.1 hhead
          exact hother ys rfl
      · rfl
    · rfl

/-- A reference without a scheme is resolved once and for all up to a character. Before a slash it has to
have another character, or the slash could be one of two. -/
theorem reads_resolve {base : Url} (special : base.isSpecial = true) {parts : List (List Char)}
    (hpath : base.path = .segments parts) {a : List Char} (markless : Markless a) {d : Char}
    (stop : isStop d = true) (named : isSeparator true d = true → ∃ c ∈ a, isSeparator true c = false) :
    Reads d fun r => resolve base (a ++ d :: r) := by
  have hscheme : isSpecialScheme base.scheme = true := special
  obtain ⟨n, b, hn, hb, hslashes⟩ := spanSlashes_stop named
  cases a with
  | nil =>
    rw [isStop_eq, Bool.or_eq_true] at stop
    rcases stop with hsep | hmark
    · obtain ⟨c, hc, -⟩ := named hsep
      cases hc
    · exact .stays hmark base fun r _ => resolve_mark base hmark r
  | cons c a =>
    have hc := markless c List.mem_cons_self
    have ha : Markless a := fun x hx => markless x (List.mem_cons_of_mem c hx)
    have hresolve (r : List Char) := resolve_cons special hpath hc (a ++ d :: r)
    simp only [← List.cons_append, hslashes] at hresolve
    cases hsep : isSeparator true c with
    | false =>
      refine (reads_atPath base parts.dropLast markless stop).congr fun r _ => ?_
      rw [hresolve, hsep]
      rfl
    | true =>
      by_cases htwo : 2 ≤ n
      · cases a with
        | nil => exact absurd (Nat.le_trans htwo hn) (by simp)
        | cons c' a =>
          have ha' : Markless a := fun x hx => ha x (List.mem_cons_of_mem c' hx)
          by_cases hdouble : c = '/' ∧ c' = '/'
          · refine (reads_authority hscheme ha' stop).congr fun r _ => ?_
            rw [hresolve, hsep, if_pos rfl, if_pos htwo, if_pos ⟨hdouble.1, congrArg some hdouble.2⟩]
            rfl
          · refine (reads_authority hscheme (fun x hx => markless x (hb hx)) stop).congr fun r _ => ?_
            rw [hresolve, hsep, if_pos rfl, if_pos htwo, if_neg fun h => hdouble ⟨h.1, Option.some.inj h.2⟩]
      · refine (reads_atPath base [] ha stop).congr fun r _ => ?_
        rw [hresolve, hsep, if_pos rfl, if_neg htwo]

/-! ## Schemes that are not of the web -/

theorem readAuthority_ok {scheme cs : List Char} {u : Url} (h : readAuthority scheme cs = .ok u) :
    u.scheme = scheme ∧ ∃ parts, u.path = .segments parts := by
  -- Whatever comes before the address is put together can only fail.
  have hbind {α : Type} {x : Except AddressError α} {f : α → Except AddressError Url}
      (hx : x >>= f = .ok u) : ∃ y, f y = .ok u := by
    cases x with
    | error e => cases hx
    | ok y => exact ⟨y, hx⟩
  unfold readAuthority at h
  obtain ⟨read, h⟩ := hbind h
  dsimp only at h
  split at h
  · cases h
  · split at h
    all_goals
      obtain ⟨host, h⟩ := hbind h
      obtain ⟨port, h⟩ := hbind h
      cases h
      exact ⟨rfl, _, rfl⟩

theorem readFile_ok {scheme cs : List Char} {u : Url} (h : readFile scheme cs = .ok u) :
    u.scheme = scheme := by
  simp only [readFile, bind, Except.bind] at h
  split at h
  · split at h
    · split at h
      · cases h
      · split at h <;> cases h <;> rfl
    · split at h <;> cases h <;> rfl
  · cases h
    rfl
  · cases h
    rfl

theorem readPlain_ok {scheme cs : List Char} {u : Url} (h : readPlain scheme cs = .ok u) :
    u.scheme = scheme := by
  unfold readPlain at h
  split at h
  · exact (readAuthority_ok h).1
  · dsimp only at h
    split at h <;> cases h <;> rfl

theorem isSpecial_of_isWeb {u : Url} (h : u.isWeb = true) : isSpecialScheme u.scheme = true := by
  simp only [isWeb, Bool.or_eq_true, beq_iff_eq] at h
  rcases h with h | h <;> rw [h] <;> rfl

theorem ne_file_of_isWeb {u : Url} (h : u.isWeb = true) : u.scheme ≠ "file".toList := by
  simp only [isWeb, Bool.or_eq_true, beq_iff_eq] at h
  rcases h with h | h <;> rw [h] <;> decide

/-! ## References -/

theorem read_of_none {base : Url} {parts : List (List Char)} (hpath : base.path = .segments parts)
    {cs : List Char} (h : takeScheme? (cleanInput cs) = none) :
    read (some base) cs = resolve base (cleanInput cs) := by
  simp only [read, h, hpath]

theorem read_of_some (base : Url) {cs scheme rest : List Char}
    (h : takeScheme? (cleanInput cs) = some (scheme, rest)) : read (some base) cs =
      if scheme == "file".toList then readFile scheme rest
      else if isSpecialScheme scheme then
        if (spanSlashes rest).1 < 2 && base.scheme == scheme then resolve base rest
        else readAuthority scheme (spanSlashes rest).2
      else readPlain scheme rest := by
  simp only [read, h]

/-- A reference is read once and for all up to a character, if what stands there leads to an address of the
web. Before a slash it has to end in a character that is neither a slash nor the colon of a scheme. -/
theorem reads_read {base : Url} (web : base.isWeb = true) {parts : List (List Char)}
    (hpath : base.path = .segments parts) {a : List Char} (markless : Markless a) {d : Char}
    (stop : isStop d = true) (visible : Visible (a ++ [d]))
    (named : isSeparator true d = true → ∃ c, a.getLast? = some c ∧ isSeparator true c = false ∧ c ≠ ':')
    {u : Url} (leads : read (some base) (a ++ [d]) = .ok u) (leadsWeb : u.isWeb = true) :
    Reads d fun r => read (some base) (a ++ d :: r) := by
  have hspecial : base.isSpecial = true := isSpecial_of_isWeb web
  have hvisible {r : List Char} (hr : Visible r) : Visible (a ++ d :: r) := by
    intro c hc
    rcases List.mem_append.1 hc with hc | hc
    · exact visible c (List.mem_append_left _ hc)
    · rcases List.mem_cons.1 hc with rfl | hc
      · exact visible c (List.mem_append_right _ List.mem_cons_self)
      · exact hr c hc
  obtain ⟨hinner, hcolon⟩ := isSchemeChar_of_isStop stop
  rcases takeScheme?_stop a hinner hcolon with hnone | ⟨scheme, x, k, rfl, hsome⟩
  · refine (reads_resolve hspecial hpath markless stop fun hsep => ?_).congr fun r hr => ?_
    · obtain ⟨c, hlast, hc, -⟩ := named hsep
      exact ⟨c, List.mem_of_getLast? hlast, hc⟩
    · have hclean := cleanInput_eq_self (hvisible hr)
      rw [read_of_none hpath (hclean.symm ▸ hnone r), hclean]
  · have hk : Markless k := fun c hc => markless c (List.mem_append_right _ (List.mem_cons_of_mem _ hc))
    have hnamed : isSeparator true d = true → ∃ c ∈ k, isSeparator true c = false := by
      intro hsep
      obtain ⟨c, hlast, hc, hcolon⟩ := named hsep
      refine ⟨c, ?_, hc⟩
      cases k with
      | nil =>
        rw [List.getLast?_append_cons] at hlast
        exact absurd (Option.some.inj hlast).symm hcolon
      | cons b k =>
        rw [List.getLast?_append_cons, List.getLast?_cons_cons] at hlast
        exact List.mem_of_getLast? hlast
    obtain ⟨n, b, -, hb, hslashes⟩ := spanSlashes_stop hnamed
    have htaken (r : List Char) (hr : Visible r) :
        takeScheme? (cleanInput (x ++ ':' :: k ++ d :: r)) = some (scheme, k ++ d :: r) := by
      rw [cleanInput_eq_self (hvisible hr)]
      exact hsome r
    have hread (r : List Char) (hr : Visible r) := read_of_some base (htaken r hr)
    simp only [hslashes] at hread
    have hleads := hread [] (List.forall_mem_nil _)
    rw [leads] at hleads
    by_cases hfile : (scheme == "file".toList) = true
    · rw [if_pos hfile] at hleads
      exact absurd ((readFile_ok hleads.symm).trans (beq_iff_eq.1 hfile)) (ne_file_of_isWeb leadsWeb)
    · by_cases hscheme : isSpecialScheme scheme = true
      · by_cases hsame : (decide (n < 2) && base.scheme == scheme) = true
        · refine (reads_resolve hspecial hpath hk stop hnamed).congr fun r hr => ?_
          rw [hread r hr, if_neg hfile, if_pos hscheme, if_pos hsame]
        · refine (reads_authority hscheme (fun c hc => hk c (hb hc)) stop).congr fun r hr => ?_
          rw [hread r hr, if_neg hfile, if_pos hscheme, if_neg hsame]
      · rw [if_neg hfile, if_neg hscheme] at hleads
        have hweb := isSpecial_of_isWeb leadsWeb
        rw [readPlain_ok hleads.symm] at hweb
        exact absurd hweb hscheme

/-- An address of the web has a path of segments. -/
theorem segments_of_isWeb {cs : List Char} {u : Url} (h : read none cs = .ok u) (web : u.isWeb = true) :
    ∃ parts, u.path = .segments parts := by
  have hspecial := isSpecial_of_isWeb web
  unfold read at h
  dsimp only at h
  split at h
  · split at h
    · next hfile => exact absurd ((readFile_ok h).trans (beq_iff_eq.1 hfile)) (ne_file_of_isWeb web)
    · split at h
      · exact (readAuthority_ok h).2
      · next hscheme =>
        rw [readPlain_ok h] at hspecial
        exact absurd hspecial hscheme
  · cases h

/-- Blanks and what is left out stand before a slash at the end. -/
theorem cleanInput_slash (cs : List Char) : ∃ x, x ⊆ cs ∧ cleanInput (cs ++ ['/']) = x ++ ['/'] := by
  refine ⟨(cs.dropWhile (!isVisible ·)).filter isKept, ?_, ?_⟩
  · intro c hc
    exact List.dropWhile_subset _ (List.mem_filter.1 hc).1
  · rw [cleanInput_concat rfl, dropWhile_stop rfl cs [], List.filter_append]
    rfl

/-- Without a host there is no address of the web. -/
theorem readAuthority_nil {scheme : List Char} (special : isSpecialScheme scheme = true) :
    readAuthority scheme [] = .error .emptyHost := by
  simp only [readAuthority, special]
  rfl

/-- An address of the web that is written with a slash at its end has a path that ends in one, if no mark
stands before it. -/
theorem path_of_slash {cs : List Char} (markless : Markless cs) {u : Url}
    (h : read none (cs ++ ['/']) = .ok u) (web : u.isWeb = true) :
    ∃ front, u.path = .segments (front ++ [[]]) := by
  obtain ⟨x, hx, hclean⟩ := cleanInput_slash cs
  have hmarkless : Markless x := fun c hc => markless c (hx hc)
  have hspecial := isSpecial_of_isWeb web
  simp only [read, hclean] at h
  rcases takeScheme?_stop x (d := '/') rfl (by decide) with hnone | ⟨scheme, y, k, rfl, hsome⟩
  · rw [hnone] at h
    cases h
  · rw [hsome] at h
    dsimp only at h
    split at h
    · next hfile =>
      exact absurd ((readFile_ok h).trans (beq_iff_eq.1 hfile)) (ne_file_of_isWeb web)
    · split at h
      · next hscheme =>
        -- A host stands behind the slashes, and the last slash behind the host.
        by_cases hnamed : ∃ c ∈ k, isSeparator true c = false
        · obtain ⟨n, b, -, hb, hslashes⟩ := spanSlashes_stop (d := '/') fun _ => hnamed
          have hbehind : Markless b := fun c hc =>
            hmarkless c (List.mem_append_right _ (List.mem_cons_of_mem _ (hb hc)))
          rw [hslashes] at h
          cases reads_authority hscheme hbehind (d := '/') rfl with
          | fails e hread => cases (hread [] (List.forall_mem_nil _)).symm.trans h
          | goesOn isSep v start hread =>
            obtain rfl := Except.ok.inj ((hread [] (List.forall_mem_nil _)).symm.trans h)
            exact ⟨start, congrArg Path.segments (resolveSegments_dotless (by decide) start)⟩
          | stays mark => cases mark
        · have hall : ∀ c ∈ k ++ ['/'], isSeparator true c = true := by
            intro c hc
            by_contra hplain
            rcases List.mem_append.1 hc with hc | hc
            · exact hnamed ⟨c, hc, Bool.eq_false_iff.2 hplain⟩
            · exact hplain (List.mem_singleton.1 hc ▸ rfl)
          rw [spanSlashes_eq, List.dropWhile_eq_nil_iff.2 hall, readAuthority_nil hscheme] at h
          cases h
      · next hscheme =>
        rw [readPlain_ok h] at hspecial
        exact absurd hspecial hscheme

/-! ## Under a base -/

/-- The address has the scheme, the host and the port of a base, and its path starts with that of the
base. -/
def Under (base u : Url) : Prop := u.origin = base.origin ∧ base.path.text <+: u.path.text

theorem isWeb_of_under {base u : Url} (web : base.isWeb = true) (h : Under base u) : u.isWeb = true := by
  have hscheme : u.scheme = base.scheme := congrArg Prod.fst h.1
  rw [isWeb, hscheme]
  exact web

/-- What is read for a start and a rest is under a base if the start is and the rest does not climb. -/
theorem under_of_reads {d : Char} {read : List Char → Except AddressError Url} (h : Reads d read)
    {base u : Url} (leads : read [] = .ok u) (under : Under base u) {r : List Char} (visible : Visible r)
    (down : isSeparator true d = true → ∀ s ∈ written (spanPath r).1, isDoubleDot s = false) :
    ∃ v, read r = .ok v ∧ Under base v := by
  have hnil : Visible [] := List.forall_mem_nil _
  cases h with
  | fails e h => cases (h [] hnil).symm.trans leads
  | goesOn isSep v start h =>
    refine ⟨atPath v start r, h r visible, ?_⟩
    obtain rfl : atPath v start [] = u := Except.ok.inj ((h [] hnil).symm.trans leads)
    have hprefix := prefix_resolveSegments start (down isSep) (written_ne_nil _)
    rw [← resolveSegments_dotless (by decide) start] at hprefix
    exact ⟨under.1, under.2.trans hprefix⟩
  | stays mark v h =>
    obtain ⟨query, fragment, hu⟩ := h [] hnil
    obtain ⟨query', fragment', hv⟩ := h r visible
    refine ⟨_, hv, ?_⟩
    obtain rfl := Except.ok.inj (hu.symm.trans leads)
    exact under

/-- A reference that is relative once it is cleaned, and does not climb, stays under a base whose path ends in
a slash. -/
theorem under_of_relative {base : Url} (web : base.isWeb = true) {front : List (List Char)}
    (hpath : base.path = .segments (front ++ [[]])) {cs rest : List Char} {c : Char}
    (start : cs.filter isVisible = c :: rest) (plain : isStop c = false)
    (relative : takeScheme? (cs.filter isVisible) = none)
    (down : ∀ s ∈ written (spanPath (cleanInput cs)).1, isDoubleDot s = false) :
    ∃ u, read (some base) cs = .ok u ∧ Under base u := by
  rw [isStop_eq, Bool.or_eq_false_iff] at plain
  cases hclean : cleanInput cs with
  | nil =>
    have hfilter := filter_cleanInput cs
    rw [hclean, start] at hfilter
    cases hfilter
  | cons d l =>
    have hfilter := filter_cleanInput cs
    rw [hclean, List.filter_cons_of_pos (isVisible_of_cleanInput hclean), start] at hfilter
    obtain ⟨rfl, -⟩ := List.cons.inj hfilter
    refine ⟨atPath base front (d :: l), ?_, rfl, ?_⟩
    · rw [read_of_none hpath (takeScheme?_cleanInput relative), hclean,
        resolve_cons (isSpecial_of_isWeb web) hpath plain.2, plain.1, List.dropLast_concat]
      rfl
    · rw [hpath, atPath, ← hclean]
      exact prefix_resolveSegments front down (written_ne_nil _)

/-- What starts with a scheme that has no rules of its own leads away from every base of the web. -/
theorem not_under_of_scheme {base : Url} (web : base.isWeb = true) {lead : List Char}
    (letter : lead.head?.any Char.isAlpha = true) (inner : ∀ c ∈ lead, isSchemeChar c = true)
    (plain : isSpecialScheme (lead.map Char.toLower) = false) (rest : List Char) :
    ∀ u, read (some base) (lead ++ ':' :: rest) = .ok u → ¬ Under base u := by
  intro u hread under
  have hvisible : Visible (lead ++ [':']) := by
    intro c hc
    rcases List.mem_append.1 hc with hc | hc
    · exact isVisible_of_isSchemeChar (inner c hc)
    · rw [List.mem_singleton.1 hc]
      rfl
  obtain ⟨rest', hclean⟩ := cleanInput_append hvisible (by simp) rest
  rw [List.append_assoc, List.append_assoc] at hclean
  have htaken : takeScheme? (cleanInput (lead ++ ':' :: rest)) = some (lead.map Char.toLower, rest') :=
    takeScheme?_eq_some_iff.2 ⟨lead, hclean, letter, inner, rfl⟩
  have hfile : ¬ (lead.map Char.toLower == "file".toList) = true := by
    intro h
    rw [beq_iff_eq.1 h] at plain
    cases plain
  rw [read_of_some base htaken, if_neg hfile, plain] at hread
  have hspecial := isSpecial_of_isWeb (isWeb_of_under web under)
  rw [readPlain_ok hread, plain] at hspecial
  cases hspecial

end Lookout.Url
