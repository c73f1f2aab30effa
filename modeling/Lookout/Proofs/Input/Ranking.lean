import Lookout.Command
import Lookout.Proofs.Text.Sigma
import Mathlib.Data.Nat.Find
import Mathlib.Order.Bounds.Basic

/-!
# Suggested commands

A text is compared with a command in six ways, from its name down to a part of one of its aliases, and the
best of them that applies is the rank of the command. What is suggested for a text are the commands that have
it in a name or an alias, sorted by rank, in their order within a rank: no other list is that.

* **`byRank_of_sorted`** — a list that is sorted by rank is what its ranks are put together to.
* **`Command.rank?_eq_some_iff`** — the rank of a command is the best way in which the text matches it.
* **`Command.suggestions_ranking`** — what is suggested for any text.
* **`Command.suggestions_eq_sort`** — the same as a filter followed by a stable sort.
-/

namespace Lookout

/-! ## Sorting by rank -/

section Ranks

variable {α : Type} {rank : α → Option Nat} {l : List α}

/-- The elements with a rank below `n`, rank by rank. -/
def byRank (rank : α → Option Nat) (n : Nat) (l : List α) : List α :=
  (List.range n).flatMap fun i => l.filter fun a => rank a = some i

/-- The ranks of two elements are in order. -/
def InRank (rank : α → Option Nat) (a b : α) : Prop :=
  ∃ i j, rank a = some i ∧ rank b = some j ∧ i ≤ j

theorem byRank_succ (rank : α → Option Nat) (n : Nat) (l : List α) :
    byRank rank (n + 1) l = byRank rank n l ++ l.filter fun a => rank a = some n := by
  rw [byRank, List.range_succ, List.flatMap_append, List.flatMap_singleton]
  rfl

theorem mem_byRank {n : Nat} {a : α} : a ∈ byRank rank n l ↔ a ∈ l ∧ ∃ i < n, rank a = some i := by
  simp only [byRank, List.mem_flatMap, List.mem_range, List.mem_filter, decide_eq_true_eq]
  constructor
  · rintro ⟨i, hi, ha, hrank⟩
    exact ⟨ha, i, hi, hrank⟩
  · rintro ⟨ha, i, hi, hrank⟩
    exact ⟨i, hi, ha, hrank⟩

/-- Lists that agree rank by rank are put together to the same list. -/
theorem byRank_congr {l' : List α} {n : Nat}
    (same : ∀ i < n, (l.filter fun a => rank a = some i) = l'.filter fun a => rank a = some i) :
    byRank rank n l = byRank rank n l' := by
  induction n with
  | zero => rfl
  | succ n ih =>
    rw [byRank_succ, byRank_succ, ih fun i hi => same i (Nat.lt_succ_of_lt hi), same n (Nat.lt_succ_self n)]

/-- To put the ranks together keeps each rank as it is. -/
theorem filter_byRank {n i : Nat} (hi : i < n) :
    ((byRank rank n l).filter fun a => rank a = some i) = l.filter fun a => rank a = some i := by
  have hother {m : Nat} (h : i ≠ m) :
      ((l.filter fun a => rank a = some m).filter fun a => rank a = some i) = [] := by
    rw [List.filter_eq_nil_iff]
    intro a ha
    have hrank : rank a = some m := of_decide_eq_true (List.mem_filter.1 ha).2
    simp [hrank, Ne.symm h]
  have hbelow (m : Nat) (h : m ≤ i) : ((byRank rank m l).filter fun a => rank a = some i) = [] := by
    rw [List.filter_eq_nil_iff]
    intro a ha
    obtain ⟨-, j, hj, hrank⟩ := mem_byRank.1 ha
    simp only [hrank, Option.some.injEq, decide_eq_true_eq]
    omega
  induction n with
  | zero => cases hi
  | succ n ih =>
    rw [byRank_succ, List.filter_append]
    rcases Nat.lt_succ_iff_lt_or_eq.1 hi with hlt | rfl
    · rw [ih hlt, hother (Nat.ne_of_lt hlt), List.append_nil]
    · rw [hbelow i (Nat.le_refl i), List.nil_append, List.filter_filter]
      simp only [Bool.and_self]

/-- The ranks are put together in order. -/
theorem pairwise_byRank (rank : α → Option Nat) (n : Nat) (l : List α) :
    (byRank rank n l).Pairwise (InRank rank) := by
  induction n with
  | zero => exact .nil
  | succ n ih =>
    rw [byRank_succ, List.pairwise_append]
    refine ⟨ih, ?_, fun a ha b hb => ?_⟩
    · refine List.Pairwise.imp_of_mem (R := fun _ _ => True) (fun ha hb _ => ?_)
        (List.pairwise_of_forall fun _ _ => trivial)
      exact ⟨n, n, of_decide_eq_true (List.mem_filter.1 ha).2, of_decide_eq_true (List.mem_filter.1 hb).2,
        Nat.le_refl n⟩
    · obtain ⟨-, i, hi, hrank⟩ := mem_byRank.1 ha
      exact ⟨i, n, hrank, of_decide_eq_true (List.mem_filter.1 hb).2, Nat.le_of_lt hi⟩

/-- A list in which nothing that passes a test stands behind something that does not is cut in two by it. -/
theorem filter_append_filter {p : α → Bool} (sorted : l.Pairwise fun a b => p b = true → p a = true) :
    l.filter p ++ l.filter (fun a => !p a) = l := by
  induction l with
  | nil => rfl
  | cons a l ih =>
    obtain ⟨hfirst, hrest⟩ := List.pairwise_cons.1 sorted
    cases ha : p a with
    | true =>
      rw [List.filter_cons_of_pos ha, List.filter_cons_of_neg (by simp [ha]), List.cons_append, ih hrest]
    | false =>
      have hnone (b : α) (hb : b ∈ l) : p b = false := by
        cases hpb : p b with
        | false => rfl
        | true => exact absurd (hfirst b hb hpb) (by simp [ha])
      have hpass : l.filter p = [] := List.filter_eq_nil_iff.2 fun b hb => by simp [hnone b hb]
      have hfail : l.filter (fun a => !p a) = l := List.filter_eq_self.2 fun b hb => by simp [hnone b hb]
      rw [List.filter_cons_of_neg (by simp [ha]), hpass, List.nil_append,
        List.filter_cons_of_pos (by simp [ha]), hfail]

/-- A list that is sorted by rank is what its ranks are put together to. -/
theorem byRank_of_sorted {n : Nat} (sorted : l.Pairwise (InRank rank))
    (below : ∀ a ∈ l, ∃ i < n, rank a = some i) : byRank rank n l = l := by
  induction n generalizing l with
  | zero =>
    cases l with
    | nil => rfl
    | cons a l =>
      obtain ⟨i, hi, -⟩ := below a List.mem_cons_self
      cases hi
  | succ n ih =>
    -- The last rank comes last, and what is in front of it is sorted by the ranks before.
    have hcut : l.filter (fun a => rank a ≠ some n) ++ l.filter (fun a => rank a = some n) = l := by
      have hlast : l.Pairwise fun a b =>
          decide (rank b ≠ some n) = true → decide (rank a ≠ some n) = true := by
        refine sorted.imp_of_mem fun {a b} _ hb ⟨i, j, hi, hj, hle⟩ => ?_
        obtain ⟨m, hm, hrank⟩ := below b hb
        obtain rfl : m = j := Option.some.inj (hrank.symm.trans hj)
        simp only [hi, hj, ne_eq, Option.some.injEq, decide_not, Bool.not_eq_true', decide_eq_false_iff_not]
        omega
      have hboth := filter_append_filter hlast
      simpa using hboth
    have hfront : byRank rank n l = byRank rank n (l.filter fun a => rank a ≠ some n) := by
      refine byRank_congr fun i hi => ?_
      rw [List.filter_filter]
      refine List.filter_congr fun a _ => ?_
      by_cases hrank : rank a = some i
      · simp [hrank, Nat.ne_of_lt hi]
      · simp [hrank]
    rw [byRank_succ, hfront, ih (sorted.filter _), hcut]
    intro a ha
    obtain ⟨hmem, hne⟩ := List.mem_filter.1 ha
    obtain ⟨i, hi, hrank⟩ := below a hmem
    refine ⟨i, Nat.lt_of_le_of_ne (Nat.le_of_lt_succ hi) fun h => ?_, hrank⟩
    rw [h] at hrank
    exact of_decide_eq_true hne hrank

/-- The elements with a rank below `n`, each as often as it is there. -/
theorem perm_byRank (rank : α → Option Nat) (n : Nat) (l : List α) :
    (byRank rank n l).Perm (l.filter fun a => (rank a).any (· < n)) := by
  induction n with
  | zero =>
    have hnone : l.filter (fun a => (rank a).any (· < 0)) = [] := by
      rw [List.filter_eq_nil_iff]
      intro a _
      cases rank a <;> simp
    rw [hnone]
    exact .nil
  | succ n ih =>
    have hcut := List.filter_append_perm (fun a => (rank a).any (· < n))
      (l.filter fun a => (rank a).any (· < n + 1))
    rw [byRank_succ]
    refine (List.Perm.append_right _ ih).trans (.trans (.of_eq ?_) hcut)
    rw [List.filter_filter, List.filter_filter]
    congr 1
    · refine List.filter_congr fun a _ => ?_
      cases hrank : rank a with
      | none => rfl
      | some i =>
        simp only [Option.any_some]
        grind
    · refine List.filter_congr fun a _ => ?_
      cases hrank : rank a with
      | none => rfl
      | some i =>
        simp only [Option.any_some, Option.some.injEq]
        grind

theorem keys_trans (key : α → Nat) (a b c : α) (hab : decide (key a ≤ key b) = true)
    (hbc : decide (key b ≤ key c) = true) : decide (key a ≤ key c) = true :=
  decide_eq_true (Nat.le_trans (of_decide_eq_true hab) (of_decide_eq_true hbc))

theorem keys_total (key : α → Nat) (a b : α) : (decide (key a ≤ key b) || decide (key b ≤ key a)) = true := by
  simpa using Nat.le_total (key a) (key b)

/-- A stable sort keeps what has one key in order. -/
theorem filter_mergeSort (key : α → Nat) (l : List α) (i : Nat) :
    (l.mergeSort fun a b => key a ≤ key b).filter (key · = i) = l.filter (key · = i) := by
  have hequal : (l.filter (key · = i)).Pairwise fun a b => decide (key a ≤ key b) = true := by
    refine List.Pairwise.imp_of_mem (R := fun _ _ => True) (fun ha hb _ => ?_)
      (List.pairwise_of_forall fun _ _ => trivial)
    have ha := of_decide_eq_true (List.mem_filter.1 ha).2
    have hb := of_decide_eq_true (List.mem_filter.1 hb).2
    exact decide_eq_true (by omega)
  have hsub : (l.filter (key · = i)).Sublist (l.mergeSort fun a b => key a ≤ key b) :=
    List.sublist_mergeSort (keys_trans key) (keys_total key) hequal List.filter_sublist
  have hkept := hsub.filter (key · = i)
  rw [List.filter_filter] at hkept
  simp only [Bool.and_self] at hkept
  refine (hkept.eq_of_length ?_).symm
  exact ((List.mergeSort_perm l _).filter _).length_eq.symm

end Ranks

namespace Command

/-! ## Ranks -/

/-- The ways in which a text matches a command, the best one first: it is its name or an alias of it, starts
one of them, or stands in one of them. -/
def Matches (text : List Char) (c : Command) : Nat → Prop
  | 0 => c.name.toList = text
  | 1 => ∃ a ∈ c.aliases, a.toList = text
  | 2 => text <+: c.name.toList
  | 3 => ∃ a ∈ c.aliases, text <+: a.toList
  | 4 => text <:+: c.name.toList
  | 5 => ∃ a ∈ c.aliases, text <:+: a.toList
  | _ => False

/-- The command has a text in its name or in one of its aliases. -/
def Has (text : List Char) (c : Command) : Prop :=
  text <:+: c.name.toList ∨ ∃ a ∈ c.aliases, text <:+: a.toList

/-- The best way in which a text matches a command. -/
def Best (text : List Char) (c : Command) (n : Nat) : Prop := IsLeast {i | c.Matches text i} n

variable {text : List Char} {c : Command}

instance (text : List Char) (c : Command) : DecidablePred (c.Matches text)
  | 0 => inferInstanceAs (Decidable (_ = _))
  | 1 => inferInstanceAs (Decidable (∃ a ∈ c.aliases, a.toList = text))
  | 2 => inferInstanceAs (Decidable (text <+: c.name.toList))
  | 3 => inferInstanceAs (Decidable (∃ a ∈ c.aliases, text <+: a.toList))
  | 4 => inferInstanceAs (Decidable (text <:+: c.name.toList))
  | 5 => inferInstanceAs (Decidable (∃ a ∈ c.aliases, text <:+: a.toList))
  | _ + 6 => inferInstanceAs (Decidable False)

instance (text : List Char) (c : Command) : Decidable (c.Has text) := inferInstanceAs (Decidable (_ ∨ _))

/-- There are six ways. -/
theorem Matches.lt {n : Nat} (h : c.Matches text n) : n < 6 := by
  by_contra hle
  obtain ⟨m, rfl⟩ := Nat.exists_eq_add_of_le (Nat.not_lt.1 hle)
  rw [Nat.add_comm] at h
  exact h

/-- In whichever way a text matches a command, the command has it. -/
theorem Matches.has {n : Nat} (h : c.Matches text n) : c.Has text := by
  match n, h with
  | 0, h => exact .inl (h ▸ List.infix_refl _)
  | 1, ⟨a, ha, h⟩ => exact .inr ⟨a, ha, h ▸ List.infix_refl _⟩
  | 2, h => exact .inl (List.IsPrefix.isInfix h)
  | 3, ⟨a, ha, h⟩ => exact .inr ⟨a, ha, h.isInfix⟩
  | 4, h => exact .inl h
  | 5, h => exact .inr h

/-- The ways are tried from the best one on. -/
theorem rank?_eq_find? (text : List Char) (c : Command) :
    c.rank? text = (List.range 6).find? fun n => c.Matches text n := by
  have hrange : List.range 6 = [0, 1, 2, 3, 4, 5] := rfl
  have hcons (n : Nat) (rest : List Nat) : (n :: rest).find? (fun n => decide (c.Matches text n)) =
      if c.Matches text n then some n else rest.find? fun n => decide (c.Matches text n) := by
    rw [List.find?_cons]
    split <;> simp_all
  simp only [hrange, hcons, List.find?_nil, rank?, List.any_eq_true, decide_eq_true_eq,
    List.isPrefixOf_iff_prefix, Text.isWithin_eq_true_iff]
  rfl

/-- The rank of a command is the best way in which the text matches it. -/
theorem rank?_eq_some_iff {n : Nat} : c.rank? text = some n ↔ c.Best text n := by
  rw [rank?_eq_find?, List.find?_range_eq_some]
  simp only [decide_eq_true_eq, List.mem_range, Bool.not_eq_true', decide_eq_false_iff_not]
  constructor
  · rintro ⟨hn, -, hbest⟩
    exact ⟨hn, fun i hi => Nat.not_lt.1 fun hlt => hbest i hlt hi⟩
  · rintro ⟨hn, hbest⟩
    exact ⟨hn, hn.lt, fun i hlt hi => absurd (hbest hi) (Nat.not_le.2 hlt)⟩

instance (text : List Char) (c : Command) (n : Nat) : Decidable (c.Best text n) :=
  decidable_of_iff (c.rank? text = some n) rank?_eq_some_iff

/-- A command has a text exactly if the text has a rank for it, which is one of six. -/
theorem has_iff : c.Has text ↔ ∃ n < 6, c.Best text n := by
  constructor
  · intro has
    have hsome : ∃ n, c.Matches text n := by
      rcases has with h | h
      · exact ⟨4, h⟩
      · exact ⟨5, h⟩
    classical
    exact ⟨Nat.find hsome, (Nat.find_spec hsome).lt, Nat.find_spec hsome,
      fun i hi => Nat.find_min' hsome hi⟩
  · rintro ⟨n, -, hn, -⟩
    exact hn.has

/-! ## Suggestions -/

/-- The commands that have a text, each as often as it is in the list, sorted by rank, and those of one rank
in the order of the list. -/
structure Ranking (text : List Char) (commands found : List Command) : Prop where
  perm : found.Perm (commands.filter (·.Has text))
  sorted : found.Pairwise fun c d => ∃ i j, c.Best text i ∧ d.Best text j ∧ i ≤ j
  inOrder (i : Nat) : found.filter (·.Best text i) = commands.filter (·.Best text i)

theorem pairwise_inRank_iff {found : List Command} :
    found.Pairwise (InRank (rank? text)) ↔
      found.Pairwise fun c d => ∃ i j, c.Best text i ∧ d.Best text j ∧ i ≤ j := by
  unfold InRank
  simp only [rank?_eq_some_iff]

theorem filter_rank (commands : List Command) (i : Nat) :
    (commands.filter fun c => c.rank? text = some i) = commands.filter (·.Best text i) := by
  simp only [rank?_eq_some_iff]

theorem filter_has (text : List Char) (commands : List Command) :
    (commands.filter fun c => (c.rank? text).any (· < 6)) = commands.filter (·.Has text) := by
  refine List.filter_congr fun c _ => ?_
  rw [Bool.eq_iff_iff, Option.any_eq_true, decide_eq_true_eq, has_iff]
  simp only [rank?_eq_some_iff, decide_eq_true_eq, and_comm]

/-- The ranks put together are the one list of that kind. -/
theorem ranking_iff {commands found : List Command} :
    Ranking text commands found ↔ found = byRank (rank? text) 6 commands := by
  constructor
  · intro ranking
    have hsame : byRank (rank? text) 6 found = byRank (rank? text) 6 commands := byRank_congr fun i _ => by
      rw [filter_rank, filter_rank, ranking.inOrder]
    rw [← hsame, byRank_of_sorted (pairwise_inRank_iff.2 ranking.sorted)]
    intro c hc
    obtain ⟨n, hn, hbest⟩ := has_iff.1 (of_decide_eq_true (List.mem_filter.1 (ranking.perm.mem_iff.1 hc)).2)
    exact ⟨n, hn, rank?_eq_some_iff.2 hbest⟩
  · rintro rfl
    refine ⟨(perm_byRank _ 6 commands).trans (.of_eq (filter_has text commands)),
      pairwise_inRank_iff.1 (pairwise_byRank _ 6 commands), fun i => ?_⟩
    by_cases hi : i < 6
    · rw [← filter_rank, ← filter_rank, filter_byRank hi]
    · have hnone (l : List Command) : l.filter (·.Best text i) = [] := by
        rw [List.filter_eq_nil_iff]
        intro c _ hbest
        exact hi (of_decide_eq_true hbest).1.lt
      rw [hnone, hnone]

/-- For a text that is not all blanks, the ranks are put together. -/
theorem suggestions_of_typed {input : String} (typed : Text.trim input.toList ≠ [])
    (commands : List Command) : suggestions commands input = byRank (rank? (normalized input)) 6 commands := by
  have htext : ¬ (normalized input).isEmpty = true := by
    intro hnil
    have hlength := Text.length_le_lowercase (Text.trim input.toList)
    rw [← normalized, List.isEmpty_iff.1 hnil] at hlength
    exact typed (List.length_eq_zero_iff.1 (Nat.le_zero.1 hlength))
  rw [suggestions, if_neg htext]
  rfl

/-- There are no more suggestions than commands. -/
theorem length_suggestions_le (commands : List Command) (input : String) :
    (suggestions commands input).length ≤ commands.length := by
  by_cases typed : Text.trim input.toList = []
  · rw [suggestions_of_blank (by rw [normalized, typed, Text.lowercase_nil])]
  · rw [suggestions_of_typed typed, (perm_byRank _ 6 commands).length_eq]
    exact List.length_filter_le _ _

/-- The ranks of the commands that have one, next to them. -/
def ranked (text : List Char) (commands : List Command) : List (Command × Nat) :=
  commands.filterMap fun c => (c.rank? text).map fun n => (c, n)

theorem rank?_of_mem_ranked {commands : List Command} {a : Command × Nat} (h : a ∈ ranked text commands) :
    a.1.rank? text = some a.2 := by
  obtain ⟨c, -, hc⟩ := List.mem_filterMap.1 h
  obtain ⟨n, hn, rfl⟩ := Option.map_eq_some_iff.1 hc
  exact hn

theorem filter_ranked (text : List Char) (commands : List Command) (i : Nat) :
    ((ranked text commands).filter (·.2 = i)).map Prod.fst =
      commands.filter fun c => c.rank? text = some i := by
  induction commands with
  | nil => rfl
  | cons c commands ih =>
    unfold ranked at ih ⊢
    rw [List.filterMap_cons, List.filter_cons]
    cases hrank : c.rank? text with
    | none => simpa using ih
    | some n =>
      by_cases hn : n = i
      · simp [hn, ih]
      · simp [hn, ih]

/-- What is suggested for a text that is not all blanks: the commands are gone through in order, those with a
rank are kept with it, and the pairs are sorted by rank with a stable sort. -/
theorem suggestions_eq_sort {input : String} (typed : Text.trim input.toList ≠ [])
    (commands : List Command) : suggestions commands input =
      ((ranked (normalized input) commands).mergeSort fun a b => a.2 ≤ b.2).map Prod.fst := by
  have hperm := List.mergeSort_perm (ranked (normalized input) commands) fun a b => decide (a.2 ≤ b.2)
  have hrank {a : Command × Nat}
      (ha : a ∈ (ranked (normalized input) commands).mergeSort fun a b => decide (a.2 ≤ b.2)) :
      a.1.rank? (normalized input) = some a.2 := rank?_of_mem_ranked (hperm.mem_iff.1 ha)
  rw [suggestions_of_typed typed]
  refine (byRank_congr fun i _ => ?_).trans (byRank_of_sorted ?_ fun c hc => ?_)
  · rw [List.filter_map, ← filter_ranked, ← filter_mergeSort Prod.snd]
    refine congrArg _ (List.filter_congr fun a ha => ?_)
    simp only [Function.comp_apply, hrank ha, Option.some.injEq]
  · rw [List.pairwise_map]
    have hsorted : ((ranked (normalized input) commands).mergeSort fun a b => decide (a.2 ≤ b.2)).Pairwise
        fun a b => decide (a.2 ≤ b.2) = true :=
      List.pairwise_mergeSort (keys_trans Prod.snd) (keys_total Prod.snd) _
    refine hsorted.imp_of_mem fun {a b} ha hb hle => ?_
    exact ⟨a.2, b.2, hrank ha, hrank hb, of_decide_eq_true hle⟩
  · obtain ⟨a, ha, rfl⟩ := List.mem_map.1 hc
    exact ⟨a.2, (rank?_eq_some_iff.1 (hrank ha)).1.lt, hrank ha⟩

/-- What is suggested for any text, whatever commands there are: without blanks around it and in lower case,
the text decides. If nothing is left of it, every command is suggested, in order; otherwise the commands that
have it in their names or aliases, by their ranks, and no other list is that. -/
theorem suggestions_ranking (commands : List Command) (input : String) :
    (Text.trim input.toList = [] → suggestions commands input = commands) ∧
    (Text.trim input.toList ≠ [] → ∀ found,
      Ranking (Text.lowercase (Text.trim input.toList)) commands found ↔
        found = suggestions commands input) := by
  constructor
  · intro blank
    exact suggestions_of_blank (by rw [normalized, blank, Text.lowercase_nil]) commands
  · intro typed found
    rw [ranking_iff, suggestions_of_typed typed]
    rfl

/-- An alias that starts with the letter comes before the aliases that have it further on, and these stay in
order. -/
theorem exit_ranked_first :
    Text.trim " E ".toList ≠ [] ∧ Text.lowercase (Text.trim " E ".toList) = ['e'] ∧
    Ranking ['e'] (builtin ++ [quit]) (suggestions (builtin ++ [quit]) " E ") ∧
    (suggestions (builtin ++ [quit]) " E ").map (·.name) = ["quit", "hosting", "chats"] := by
  have htyped : Text.trim " E ".toList ≠ [] := by decide
  have htext : Text.lowercase (Text.trim " E ".toList) = ['e'] := by decide
  have hranking := ((suggestions_ranking (builtin ++ [quit]) " E ").2 htyped _).2 rfl
  rw [htext] at hranking
  exact ⟨htyped, htext, hranking, by decide +kernel⟩

end Command

end Lookout
