import Lookout.Screen.Wrap
import Mathlib.Algebra.Order.BigOperators.Group.List
import Mathlib.Algebra.Order.Ring.Nat

/-!
# Rows of wrapped text

How many rows a line takes when it is wrapped, where each glyph of the line has one column. A single word is
cut into full rows. In a line of words with one blank between any two of them, nothing is lost but at most one
blank where two rows meet.

* **`isNarrow_of_printable`**, **`glyphs_of_narrow`** — which texts are such lines.
* **`Wrapping.read_of_break`**, **`Wrapping.read_of_word`** — what one glyph does.
* **`Wrapping.Chopped.read`**, **`length_wrapLine_of_word`** — a single word.
* **`Wrapping.Kept.read_break`**, **`Wrapping.Kept.read_word`**, **`wrapLine_of_spaced`** — words with single
  blanks between them.
-/

namespace Lookout

/-! ## Narrow text -/

namespace Text

/-- The character is drawn by itself, in one column. -/
def isNarrow (c : Char) : Bool := clusterClass c == .other && width [c] == 1

variable {cs : List Char}

/-- The printable characters of ASCII are narrow. -/
theorem isNarrow_of_printable {c : Char} (low : 0x20 ≤ c.toNat) (high : c.toNat < 0x7f) :
    isNarrow c = true := by
  have hfeed : ¬ c.toNat = 0xa := by omega
  have hreturn : ¬ c.toNat = 0xd := by omega
  have hclass : clusterClass c = .other := by simp [clusterClass, hreturn, hfeed, low, high]
  have hwidth : width [c] = 1 := by
    have hjoiner : c ≠ '\u200d' := by
      rintro rfl
      exact absurd high (by decide)
    have hnoreturn : c ≠ '\x0d' := by
      rintro rfl
      exact hreturn rfl
    have hmark : c.toNat < 0x300 := by omega
    have hone : c.toNat < 0xa0 := by omega
    simp [width, widthUpTo, charWidth, hnoreturn, hmark, hone]
  simp [isNarrow, hclass, hwidth]

theorem not_continues_of_narrow {last c : Char} (hlast : isNarrow last = true) (hc : isNarrow c = true) :
    continuesCluster [last] c = false := by
  simp only [isNarrow, Bool.and_eq_true, beq_iff_eq] at hlast hc
  simp only [continuesCluster, hlast.1, hc.1]

theorem clustersFrom_of_narrow {last : Char} (h : ∀ c ∈ last :: cs, isNarrow c = true) :
    clustersFrom [last] cs = (last :: cs).map fun c => [c] := by
  induction cs generalizing last with
  | nil => rfl
  | cons c rest ih =>
    obtain ⟨hlast, hrest⟩ := List.forall_mem_cons.1 h
    have hcut : continuesCluster [last] c = false :=
      not_continues_of_narrow hlast (hrest c List.mem_cons_self)
    rw [clustersFrom, hcut, List.isEmpty_cons, if_neg (by decide), ih hrest]
    rfl

/-- Each character of a narrow text is a cluster. -/
theorem clusters_of_narrow (h : ∀ c ∈ cs, isNarrow c = true) : clusters cs = cs.map fun c => [c] := by
  cases cs with
  | nil => rfl
  | cons c rest => exact clustersFrom_of_narrow h

theorem ne_lineFeed_of_narrow {c : Char} (h : isNarrow c = true) : c ≠ '\n' := by
  rintro rfl
  revert h
  decide

theorem linesFrom_of_narrow {current : List Char} (h : ∀ c ∈ cs, isNarrow c = true)
    (filled : current.reverse ++ cs ≠ []) : linesFrom current cs = [current.reverse ++ cs] := by
  induction cs generalizing current with
  | nil =>
    have hcurrent : current.isEmpty = false := by simpa using filled
    rw [linesFrom, hcurrent, if_neg (by decide), List.append_nil]
  | cons c rest ih =>
    obtain ⟨hc, hrest⟩ := List.forall_mem_cons.1 h
    rw [linesFrom, if_neg (ne_lineFeed_of_narrow hc), ih hrest (by simp), List.reverse_cons,
      List.append_assoc, List.singleton_append]

/-- A narrow text that is not empty is one line. -/
theorem lines_of_narrow (h : ∀ c ∈ cs, isNarrow c = true) (filled : cs ≠ []) : lines cs = [cs] :=
  linesFrom_of_narrow h filled

end Text

/-- The characters of a narrow text are its glyphs. -/
theorem glyphs_of_narrow {cs : List Char} (style : Style) (h : ∀ c ∈ cs, Text.isNarrow c = true) :
    Span.glyphs ⟨cs, style⟩ = cs.map fun c => ⟨[c], 1, style⟩ := by
  have hdrawn : (cs.map fun c => [c]).filter (· ≠ ['\n']) = cs.map fun c => [c] := by
    refine List.filter_eq_self.2 fun g hg => ?_
    obtain ⟨c, hc, rfl⟩ := List.mem_map.1 hg
    have hfeed := Text.ne_lineFeed_of_narrow (h c hc)
    simpa using hfeed
  rw [Span.glyphs, Text.clusters_of_narrow h, hdrawn, List.map_map]
  refine List.map_congr_left fun c hc => ?_
  have hnarrow := h c hc
  simp only [Text.isNarrow, Bool.and_eq_true, beq_iff_eq] at hnarrow
  rw [Function.comp_apply, hnarrow.2]

/-! ## One glyph -/

namespace Glyph

/-- Every blank of the rest of a line stands behind a word, and the line ends with a word. `afterWord` holds
if the last glyph before the rest is no blank. -/
def isSpaced (afterWord : Bool) : List Glyph → Bool
  | [] => afterWord
  | g :: rest => (afterWord || !g.isBreak) && isSpaced (!g.isBreak) rest

end Glyph

namespace Wrapping

open Glyph

/-- The columns of the row under way with the blanks and the word behind it. -/
def pending (s : Wrapping) : Nat := rowColumns s.row + rowColumns s.gap + rowColumns s.word

/-- The columns of all that is kept. -/
def total (s : Wrapping) : Nat := (s.rows.map rowColumns).sum + s.pending

variable {room : Nat} {s : Wrapping} {g : Glyph}

theorem dropFitting_eq_nil {gap : List Glyph} (h : rowColumns gap ≤ room) : dropFitting room gap = [] := by
  induction gap generalizing room with
  | nil => rfl
  | cons g rest ih =>
    rw [rowColumns] at h
    rw [dropFitting, if_neg (by omega), ih (by omega)]

theorem columns_extended (h : s.row = [] → s.gap = []) : rowColumns s.extended = s.pending := by
  rw [extended, pending]
  cases hrow : s.row with
  | nil => simp [h hrow]
  | cons g rest =>
    rw [List.isEmpty_cons, if_neg (by decide), rowColumns_append, rowColumns_append]

theorem isFull_iff (one : g.columns = 1) : s.isFull room g = true ↔ room ≤ s.pending := by
  simp only [isFull, pending, one, Bool.or_eq_true, Bool.and_eq_true, decide_eq_true_eq]
  omega

/-- A blank behind a word lets the word join the row, and is passed over if that is full now. -/
theorem read_of_break (one : g.columns = 1) (pos : 0 < room) (hbreak : g.isBreak = true)
    (hword : s.afterWord = true) (hgap : s.row = [] → s.gap = []) :
    s.read room g =
      if room ≤ s.pending then { s with rows := s.extended :: s.rows, row := [], gap := [], word := [] }
      else { s with row := s.extended, gap := [g], word := [], afterWord := false } := by
  have hends : s.endsWord room g = true := by simp [endsWord, hword, hbreak]
  have hfull : s.joinWord.isFull room g = true ↔ room ≤ s.pending := by
    rw [isFull_iff one, ← columns_extended hgap]
    simp [joinWord, pending]
  rw [read, if_neg (by omega), hends]
  simp only [if_true, hfull]
  split
  · simp [joinWord, dropFitting, hbreak]
  · simp [joinWord, push, hbreak]

/-- A glyph of a word joins the word, after the row that is full without it. -/
theorem read_of_word (one : g.columns = 1) (pos : 0 < room) (hbreak : g.isBreak = false)
    (hgap : s.row = [] → s.gap = []) (fits : s.pending ≤ room) :
    s.read room g =
      if s.pending < room then { s with word := s.word ++ [g], afterWord := true }
      else if s.row = [] then ⟨s.word :: s.rows, [], [], [g], true⟩
      else ⟨s.row :: s.rows, [], [], s.word ++ [g], true⟩ := by
  have hends : s.endsWord room g = true ↔ s.row = [] ∧ room ≤ s.pending := by
    simp only [endsWord, hbreak, one, Bool.and_false, Bool.false_or, Bool.and_eq_true, List.isEmpty_iff,
      Bool.or_eq_true, decide_eq_true_eq, pending]
    refine and_congr_right fun hrow => ?_
    rw [hrow, hgap hrow, rowColumns_nil]
    omega
  rw [read, if_neg (by omega)]
  by_cases hroom : s.pending < room
  · rw [if_pos hroom]
    have hno : ¬ s.endsWord room g = true := fun h => absurd (hends.1 h).2 (Nat.not_le.2 hroom)
    have hfree : ¬ s.isFull room g = true := fun h => absurd ((isFull_iff one).1 h) (Nat.not_le.2 hroom)
    simp only [if_neg hno, if_neg hfree, push, hbreak, Bool.false_eq_true, if_false]
  · rw [if_neg hroom]
    by_cases hrow : s.row = []
    · -- The word is as wide as a row and takes one of its own.
      have hjoined : s.joinWord = ⟨s.rows, s.word, [], [], s.afterWord⟩ := by simp [joinWord, extended, hrow]
      have hfull : s.joinWord.isFull room g = true := by
        rw [isFull_iff one, hjoined]
        simp only [pending, hrow, hgap hrow, rowColumns_nil] at hroom ⊢
        omega
      simp only [if_pos (hends.2 ⟨hrow, Nat.not_lt.1 hroom⟩), if_pos hfull, if_pos hrow]
      simp [hjoined, dropFitting, push, hbreak]
    · have hno : ¬ s.endsWord room g = true := fun h => hrow (hends.1 h).1
      have hfull : s.isFull room g = true := (isFull_iff one).2 (Nat.not_lt.1 hroom)
      have hdropped : dropFitting (room - rowColumns s.row) s.gap = [] := by
        refine dropFitting_eq_nil ?_
        rw [pending] at fits
        omega
      simp only [if_neg hno, if_pos hfull, if_neg hrow, hdropped]
      simp [push, hbreak]

/-- The last row is the one under way with the word. -/
theorem finish_of_word (h : 0 < rowColumns s.word) : s.finish = (s.extended :: s.rows).reverse := by
  have hword : s.word ≠ [] := by
    intro hnone
    rw [hnone, rowColumns_nil] at h
    omega
  have hlast : s.extended ≠ [] := List.append_ne_nil_of_right_ne_nil _ hword
  rw [finish, List.isEmpty_eq_false_iff.2 hword, List.isEmpty_eq_false_iff.2 hlast]
  simp

/-! ## A single word -/

/-- The first `count` glyphs of a word have been read: the finished rows are full, and the rest is the word. -/
structure Chopped (room count : Nat) (s : Wrapping) : Prop where
  row : s.row = []
  gap : s.gap = []
  word_le : rowColumns s.word ≤ room
  word_pos : 0 < count → 0 < rowColumns s.word
  full : s.rows.length * room + rowColumns s.word = count

theorem Chopped.pending {count : Nat} (h : Chopped room count s) : s.pending = rowColumns s.word := by
  rw [Wrapping.pending, h.row, h.gap, rowColumns_nil, Nat.zero_add]

theorem Chopped.read {count : Nat} (h : Chopped room count s) (one : g.columns = 1) (pos : 0 < room)
    (hbreak : g.isBreak = false) : Chopped room (count + 1) (s.read room g) := by
  have hle := h.word_le
  have hfull := h.full
  rw [read_of_word one pos hbreak (fun _ => h.gap) (h.pending ▸ hle), h.pending, if_pos h.row]
  split
  · next hroom =>
    have hword : rowColumns (s.word ++ [g]) = rowColumns s.word + 1 := by simp [rowColumns, one]
    refine ⟨h.row, h.gap, ?_, ?_, ?_⟩
    · exact hword ▸ hroom
    · exact fun _ => hword ▸ Nat.succ_pos _
    · rw [hword, ← hfull, Nat.add_assoc]
  · next hnoroom =>
    have hword : rowColumns [g] = 1 := by simp [rowColumns, one]
    refine ⟨rfl, rfl, ?_, ?_, ?_⟩
    · exact hword ▸ pos
    · exact fun _ => hword ▸ Nat.one_pos
    · rw [hword, List.length_cons, Nat.succ_mul]
      omega

theorem Chopped.foldl {count : Nat} {line : List Glyph} (h : Chopped room count s)
    (one : ∀ g ∈ line, g.columns = 1) (pos : 0 < room) (word : ∀ g ∈ line, g.isBreak = false) :
    Chopped room (count + line.length) (line.foldl (Wrapping.read room) s) := by
  induction line generalizing s count with
  | nil => exact h
  | cons g rest ih =>
    obtain ⟨hone, hones⟩ := List.forall_mem_cons.1 one
    obtain ⟨hword, hwords⟩ := List.forall_mem_cons.1 word
    have hrest := ih (h.read hone pos hword) hones hwords
    rwa [List.length_cons, List.foldl_cons, Nat.add_comm rest.length, ← Nat.add_assoc]

/-! ## Words with single blanks -/

/-- The first `count` glyphs of words with single blanks between them have been read. -/
structure Kept (room count : Nat) (afterWord : Bool) (s : Wrapping) : Prop where
  rows_le : ∀ row ∈ s.rows, rowColumns row ≤ room
  pending_le : s.pending ≤ room
  gap_le : rowColumns s.gap ≤ 1
  no_gap : s.row = [] → s.gap = []
  row_pos : s.row ≠ [] → 0 < rowColumns s.row
  word_pos : afterWord = true → s.afterWord = true ∧ 0 < rowColumns s.word
  total_le : s.total ≤ count
  le_total : count ≤ s.total + s.rows.length
  rows_pos : s.rows ≠ [] → room < count

variable {count : Nat}

theorem kept_start (room : Nat) : Kept room 0 false start where
  rows_le := List.forall_mem_nil _
  pending_le := Nat.zero_le _
  gap_le := Nat.zero_le _
  no_gap := fun _ => rfl
  row_pos := fun h => absurd rfl h
  word_pos := fun h => absurd h Bool.false_ne_true
  total_le := Nat.le_refl _
  le_total := Nat.le_refl _
  rows_pos := fun h => absurd rfl h

/-- A blank behind a word. -/
theorem Kept.read_break (h : Kept room count true s) (one : g.columns = 1) (pos : 0 < room)
    (hbreak : g.isBreak = true) : Kept room (count + 1) false (s.read room g) := by
  obtain ⟨hrows, hpending, -, hnogap, -, hword, htotal, hlost, hfull⟩ := h
  obtain ⟨hafter, hword⟩ := hword rfl
  have hextended := columns_extended hnogap
  have hgap : rowColumns [g] = 1 := by simp [rowColumns, one]
  have hword_le : rowColumns s.word ≤ s.pending := Nat.le_add_left _ _
  rw [total] at htotal hlost
  rw [read_of_break one pos hbreak hafter hnogap]
  split
  · next hnoroom =>
    -- The blank is lost, and with it the numbers of glyphs and of rows grow by one.
    have htotal' : total { s with rows := s.extended :: s.rows, row := [], gap := [], word := [] } =
        (s.rows.map rowColumns).sum + s.pending := by
      simp only [total, pending, List.map_cons, List.sum_cons, hextended, rowColumns_nil]
      omega
    exact {
      rows_le := List.forall_mem_cons.2 ⟨hextended ▸ hpending, hrows⟩
      pending_le := Nat.zero_le _
      gap_le := Nat.zero_le _
      no_gap := fun _ => rfl
      row_pos := fun hne => absurd rfl hne
      word_pos := fun h => absurd h Bool.false_ne_true
      total_le := by rw [htotal']; omega
      le_total := by rw [htotal', List.length_cons]; omega
      rows_pos := fun _ => by omega }
  · next hroom =>
    have hpending' : pending { s with row := s.extended, gap := [g], word := [], afterWord := false } =
        s.pending + 1 := by
      rw [pending, hextended, hgap, rowColumns_nil, Nat.add_zero]
    have hrow : 0 < rowColumns s.extended := hextended ▸ Nat.lt_of_lt_of_le hword hword_le
    exact {
      rows_le := hrows
      pending_le := by rw [hpending']; omega
      gap_le := Nat.le_of_eq hgap
      no_gap := fun hnone => by
        rw [show s.extended = [] from hnone, rowColumns_nil] at hrow
        omega
      row_pos := fun _ => hrow
      word_pos := fun h => absurd h Bool.false_ne_true
      total_le := by rw [total, hpending']; dsimp only; omega
      le_total := by rw [total, hpending']; dsimp only; omega
      rows_pos := fun hne => Nat.lt_succ_of_lt (hfull hne) }

/-- A glyph of a word. -/
theorem Kept.read_word {after : Bool} (h : Kept room count after s) (one : g.columns = 1) (pos : 0 < room)
    (hbreak : g.isBreak = false) : Kept room (count + 1) true (s.read room g) := by
  obtain ⟨hrows, hpending, hgap, hnogap, hrow, -, htotal, hlost, hfull⟩ := h
  have hword : rowColumns (s.word ++ [g]) = rowColumns s.word + 1 := by simp [rowColumns, one]
  have hone : rowColumns [g] = 1 := by simp [rowColumns, one]
  rw [total] at htotal hlost
  rw [read_of_word one pos hbreak hnogap hpending]
  split
  · next hroom =>
    have hpending' : pending { s with word := s.word ++ [g], afterWord := true } = s.pending + 1 := by
      rw [pending, hword, ← Nat.add_assoc]
      rfl
    exact {
      rows_le := hrows
      pending_le := hpending' ▸ hroom
      gap_le := hgap
      no_gap := hnogap
      row_pos := hrow
      word_pos := fun _ => ⟨rfl, hword ▸ Nat.succ_pos _⟩
      total_le := by rw [total, hpending']; dsimp only; omega
      le_total := by rw [total, hpending']; dsimp only; omega
      rows_pos := fun hne => Nat.lt_succ_of_lt (hfull hne) }
  · next hnoroom =>
    split
    · next hnone =>
      -- The word alone is as wide as a row.
      have hpending' : s.pending = rowColumns s.word := by
        rw [pending, hnone, hnogap hnone, rowColumns_nil, Nat.zero_add]
      have htotal' : total ⟨s.word :: s.rows, [], [], [g], true⟩ =
          (s.rows.map rowColumns).sum + s.pending + 1 := by
        rw [hpending']
        simp only [total, pending, List.map_cons, List.sum_cons, rowColumns_nil, hone]
        omega
      exact {
        rows_le := List.forall_mem_cons.2 ⟨hpending' ▸ hpending, hrows⟩
        pending_le := by
          simp only [pending, rowColumns_nil, hone]
          omega
        gap_le := Nat.zero_le _
        no_gap := fun _ => rfl
        row_pos := fun hne => absurd rfl hne
        word_pos := fun _ => ⟨rfl, hone ▸ Nat.one_pos⟩
        total_le := by rw [htotal']; omega
        le_total := by rw [htotal', List.length_cons]; omega
        rows_pos := fun _ => by omega }
    · next hsome =>
      -- The row ends before the word, and the blank between them is lost.
      have hpos := hrow hsome
      have htotal' : total ⟨s.row :: s.rows, [], [], s.word ++ [g], true⟩ + rowColumns s.gap =
          (s.rows.map rowColumns).sum + s.pending + 1 := by
        simp only [total, pending, List.map_cons, List.sum_cons, rowColumns_nil, hword]
        omega
      rw [pending] at hpending
      exact {
        rows_le := List.forall_mem_cons.2 ⟨by omega, hrows⟩
        pending_le := by
          simp only [pending, rowColumns_nil, hword]
          omega
        gap_le := Nat.zero_le _
        no_gap := fun _ => rfl
        row_pos := fun hne => absurd rfl hne
        word_pos := fun _ => ⟨rfl, hword ▸ Nat.succ_pos _⟩
        total_le := by omega
        le_total := by rw [List.length_cons]; omega
        rows_pos := fun _ => by omega }

theorem Kept.foldl {after : Bool} {line : List Glyph} (h : Kept room count after s)
    (one : ∀ g ∈ line, g.columns = 1) (pos : 0 < room) (spaced : isSpaced after line = true) :
    Kept room (count + line.length) true (line.foldl (Wrapping.read room) s) := by
  induction line generalizing s count after with
  | nil => exact (show after = true from spaced) ▸ h
  | cons g rest ih =>
    obtain ⟨hone, hones⟩ := List.forall_mem_cons.1 one
    rw [isSpaced, Bool.and_eq_true, Bool.or_eq_true] at spaced
    have hread : Kept room (count + 1) (!g.isBreak) (s.read room g) := by
      cases hbreak : g.isBreak with
      | false => exact h.read_word hone pos hbreak
      | true =>
        have hafter : after = true := by simpa [hbreak] using spaced.1
        subst hafter
        exact h.read_break hone pos hbreak
    have hrest := ih hread hones spaced.2
    rwa [List.length_cons, List.foldl_cons, Nat.add_comm rest.length, ← Nat.add_assoc]

end Wrapping

/-! ## The rows of a line -/

variable {room : Nat} {line : List Glyph}

/-- A word is cut into full rows. -/
theorem length_wrapLine_of_word (pos : 0 < room) (one : ∀ g ∈ line, g.columns = 1)
    (word : ∀ g ∈ line, g.isBreak = false) (filled : line ≠ []) :
    (wrapLine room line).length = (line.length + room - 1) / room := by
  have hstart : Wrapping.Chopped room 0 .start := ⟨rfl, rfl, Nat.zero_le _, fun h => h, Nat.zero_mul _⟩
  obtain ⟨-, -, hle, hpos, hfull⟩ := hstart.foldl one pos word
  rw [Nat.zero_add] at hpos hfull
  have hword := hpos (List.length_pos_iff.2 filled)
  rw [wrapLine, Wrapping.finish_of_word hword, List.length_reverse, List.length_cons]
  symm
  rw [Nat.div_eq_iff pos]
  constructor
  · rw [Nat.succ_mul]
    omega
  · rw [Nat.succ_mul]
    omega

/-- Words with single blanks between them take one row if they fit. Else, each row but the last may lose the
blank behind it, and nothing else is lost. -/
theorem wrapLine_of_spaced (pos : 0 < room) (one : ∀ g ∈ line, g.columns = 1)
    (spaced : Glyph.isSpaced false line = true) :
    (∀ row ∈ wrapLine room line, Glyph.rowColumns row ≤ room) ∧
    0 < (wrapLine room line).length ∧
    ((wrapLine room line).length = 1 ↔ line.length ≤ room) ∧
    line.length < (wrapLine room line).length * (room + 1) := by
  have hkept := (Wrapping.kept_start room).foldl one pos spaced
  have hword := (hkept.word_pos rfl).2
  have hextended := Wrapping.columns_extended hkept.no_gap
  rw [wrapLine, Wrapping.finish_of_word hword, List.length_reverse, List.length_cons]
  generalize line.foldl (Wrapping.read room) .start = s at hkept hword hextended
  obtain ⟨hrows, hpending, -, -, -, -, htotal, hlost, hfull⟩ := hkept
  have hsum : (s.rows.map Glyph.rowColumns).sum ≤ s.rows.length * room := by
    have hle := List.sum_le_card_nsmul (s.rows.map Glyph.rowColumns) room
      (List.forall_mem_map.2 hrows)
    rwa [List.length_map, Nat.nsmul_eq_mul] at hle
  rw [Wrapping.total] at htotal hlost
  refine ⟨fun row hrow => ?_, Nat.succ_pos _, ?_, ?_⟩
  · rcases List.mem_cons.1 (List.mem_reverse.1 hrow) with rfl | hrow
    · exact hextended ▸ hpending
    · exact hrows row hrow
  · cases hs : s.rows with
    | nil =>
      rw [hs] at hlost
      simp at hlost ⊢
      omega
    | cons first rest =>
      have hmore := hfull (by simp [hs])
      rw [List.length_cons]
      omega
  · rw [Nat.succ_mul, Nat.mul_succ]
    omega

end Lookout
