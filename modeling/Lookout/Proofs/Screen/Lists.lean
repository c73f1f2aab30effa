import Lookout.Proofs.Screen.Strokes
import Lookout.Screen.ListBox

/-!
# Drawn lists

A list box draws each of its rows into a row of its rectangle, and a row does not depend on the others. So
what is seen in a row of the screen is what the row of the list there makes of what was there before.

* **`index_draw`** — the row that is selected once a list is drawn.
* **`draws_drawRow`** — a row of a list changes one row of the screen.
* **`cell_draw`** — a drawn list shows each of its rows in its place.
* **`shown_of_fits`** — a list that fits into its rectangle is shown from its start.
* **`draws_list`** — a list is drawn in its rectangle.
* **`cell_draw_of_full`** — what a list that fills an empty rectangle leaves in each cell of it.
-/

namespace Lookout.ListBox

open Canvas (Draws)

/-- The selection that a list is drawn with. -/
def settled (b : ListBox) (r : Rect) (s : Selection) : Selection := s.scroll b.rows.length r.height

/-- The first row on display and the first one behind those on display when a list is drawn. -/
def shown (b : ListBox) (r : Rect) (s : Selection) : Nat × Nat :=
  { b.settled r s with offset := s.offset }.bounds b.rows.length r.height

/-- What a line in a row of a rectangle leaves in a column of it, if nothing else is on the canvas. -/
def lineCell (c : Canvas) (r : Rect) (y : Nat) (row : List Span) (x : Nat) : Cell :=
  ((Canvas.blank c.width c.height).drawLine y r.x r.right 0 row).cell x y

/-! ## The selected row -/

/-- Once a list is drawn, the row is selected that was, or the last one if there are fewer rows now, or the
first one if none was. -/
theorem index_draw {b : ListBox} (filled : b.rows ≠ []) (c : Canvas) (r : Rect) (s : Selection) :
    (b.draw c r (s.settle b.rows.length)).1.index = some (min (s.index.getD 0) (b.rows.length - 1)) := by
  have hcount : b.rows.length ≠ 0 := mt List.length_eq_zero_iff.1 filled
  have hsettle : (s.settle b.rows.length).index = some (min (s.index.getD 0) (b.rows.length - 1)) := by
    rw [Selection.settle, if_neg hcount]
  unfold draw
  split
  · exact hsettle
  · -- What has been settled is not moved by scrolling.
    show ((s.settle b.rows.length).scroll b.rows.length r.height).index = _
    rw [Selection.scroll, if_neg hcount]
    show (s.settle b.rows.length).index.map _ = _
    rw [hsettle, Option.map_some, Nat.min_assoc, Nat.min_self]

/-! ## One row -/

theorem eq_of_has_row {x y width x' y' : Nat} (h : Rect.Has ⟨x, y, width, 1⟩ x' y') : y' = y :=
  Nat.le_antisymm (Nat.le_of_lt_succ h.2.2.2) h.2.2.1

/-- A row of a list changes one row of the screen, and no more of it than the list has of it. -/
theorem draws_drawRow (b : ListBox) (r : Rect) (y : Nat) (hasSelection isSelected : Bool)
    (row : List Span) :
    Draws (fun s => s.y = y ∧ (0 < r.width → r.x ≤ s.x ∧ s.x < r.right))
      fun c => b.drawRow c r y hasSelection isSelected row := by
  have hline (room : Nat) : Draws (fun s => s.y = y ∧ (0 < r.width → r.x ≤ s.x ∧ s.x < r.right))
      fun c => c.drawLine y (r.x + room) r.right 0 row :=
    (Canvas.draws_line y (r.x + room) r.right 0 row).mono fun _ h =>
      ⟨h.1.1, fun _ => ⟨Nat.le_of_add_right_le h.2.1, h.2.2⟩⟩
  have hpointer : Draws (fun s => s.y = y ∧ (0 < r.width → r.x ≤ s.x ∧ s.x < r.right))
      fun c => c.drawGlyphs y r.x r.right r.x true b.pointerGlyphs := by
    refine (Canvas.draws_glyphs y r.x r.right (fun _ h => List.mem_map_of_mem h) r.x true).mono
      fun s hs => ⟨hs.1.1, fun filled => ?_⟩
    have hright : r.x < r.right := Nat.lt_add_of_pos_right filled
    exact hs.2 ⟨Nat.le_refl _, hright, fun _ => hright⟩
  have hfill (room : Nat) (fits : room ≤ r.width) (f : Nat → Nat → Cell → Cell) :
      Draws (fun s => s.y = y ∧ (0 < r.width → r.x ≤ s.x ∧ s.x < r.right))
        fun c => c.fill ⟨r.x, y, room, 1⟩ f := by
    refine .fill fun x' y' hhas => ⟨eq_of_has_row hhas, fun _ => ⟨hhas.1, ?_⟩⟩
    have hright := hhas.2.1
    simp only [Rect.right] at hright ⊢
    omega
  exact (hline _).comp (.ite (hpointer.comp (hfill _ (Nat.le_refl _) _))
    (.ite (hfill _ (Nat.min_le_right _ _) _) .nothing))

/-- Without a pointer in front of it, a row is a line, with the highlight over it if it is selected. -/
theorem drawRow_of_no_pointer {b : ListBox} (h : b.pointer = "") (c : Canvas) (r : Rect) (y : Nat)
    (hasSelection isSelected : Bool) (row : List Span) :
    b.drawRow c r y hasSelection isSelected row =
      if isSelected then (c.drawLine y r.x r.right 0 row).tint ⟨r.x, y, r.width, 1⟩ b.highlight
      else c.drawLine y r.x r.right 0 row := by
  have hroom : (if hasSelection then (Span.plain "").columns else 0) = 0 := by
    split <;> rfl
  have hglyphs : b.pointerGlyphs = [] := by
    rw [pointerGlyphs, h]
    rfl
  have hempty (c : Canvas) : (c.fill ⟨r.x, y, min 0 r.width, 1⟩ fun _ _ cell =>
      { cell with symbol := [' '] }) = c := by
    rw [Nat.zero_min]
    rfl
  unfold drawRow
  simp only [h, hroom, hglyphs, hempty, ite_self]
  rfl

/-! ## All rows -/

/-- Of rows that are drawn one below the other, each is seen in its place. -/
theorem cell_rows (b : ListBox) (c : Canvas) (r : Rect) (first : Nat) (s : Selection)
    (rows : List (List Span)) {n : Nat} (le : first ≤ n) {k : Nat} {row : List Span}
    (hrow : rows[k]? = some row) {x y : Nat} (hx : x < c.width) (hy : y < c.height)
    (place : y = r.y + (n + k - first)) :
    ((rows.zipIdx n).foldl (fun c (row, i) =>
      b.drawRow c r (r.y + (i - first)) s.index.isSome (s.index = some i) row) c).cell x y =
      (b.drawRow c r y s.index.isSome (s.index = some (n + k)) row).cell x y := by
  have hapart : (rows.zipIdx n).Pairwise fun p q => ∀ (x y : Nat),
      (first ≤ p.2 ∧ y = r.y + (p.2 - first)) → ¬ (first ≤ q.2 ∧ y = r.y + (q.2 - first)) := by
    refine (Canvas.pairwise_zipIdx rows n).imp fun hlt _ y hp hq => ?_
    omega
  have hmem : (row, n + k) ∈ rows.zipIdx n := List.mk_add_mem_zipIdx_iff_getElem?.2 hrow
  obtain ⟨hone, -⟩ := Draws.cell_foldl (c := c) (x := x) (y := y)
    (f := fun c (p : List Span × Nat) =>
      b.drawRow c r (r.y + (p.2 - first)) s.index.isSome (s.index = some p.2) p.1)
    (fun p hp => (b.draws_drawRow r _ _ _ p.1).mono fun stroke hstroke =>
      ⟨Nat.le_trans le (List.le_snd_of_mem_zipIdx hp), hstroke.1⟩) hapart hx hy
  subst place
  exact hone _ hmem ⟨Nat.le_add_right_of_le le, rfl⟩

/-- A drawn list shows each of its rows in its place. -/
theorem cell_draw {b : ListBox} {c : Canvas} {r : Rect} {s : Selection} (room : r.isEmpty = false) {i : Nat}
    {row : List Span} (hrow : b.rows[i]? = some row) (first : (b.shown r s).1 ≤ i)
    (last : i < (b.shown r s).2) {x y : Nat} (hx : x < c.width) (hy : y < c.height)
    (place : y = r.y + (i - (b.shown r s).1)) :
    (b.draw c r s).2.cell x y =
      (b.drawRow c r y (b.settled r s).index.isSome ((b.settled r s).index = some i) row).cell x y := by
  have hdraw : (b.draw c r s).2 =
      (((b.rows.zipIdx.drop (b.shown r s).1).take ((b.shown r s).2 - (b.shown r s).1)).foldl
        (fun c (row, i) => b.drawRow c r (r.y + (i - (b.shown r s).1)) (b.settled r s).index.isSome
          ((b.settled r s).index = some i) row) c) := by
    rw [draw, if_neg (by rw [room]; exact Bool.false_ne_true)]
    rfl
  have hseen : (b.rows.zipIdx.drop (b.shown r s).1).take ((b.shown r s).2 - (b.shown r s).1) =
      ((b.rows.drop (b.shown r s).1).take ((b.shown r s).2 - (b.shown r s).1)).zipIdx (b.shown r s).1 := by
    refine List.ext_getElem? fun j => ?_
    simp only [List.getElem?_take, List.getElem?_drop, List.getElem?_zipIdx, Nat.zero_add]
    split
    · rfl
    · rfl
  have hi : (b.shown r s).1 + (i - (b.shown r s).1) = i := by omega
  have hget : ((b.rows.drop (b.shown r s).1).take ((b.shown r s).2 - (b.shown r s).1))[i - (b.shown r s).1]? =
      some row := by
    rw [List.getElem?_take_of_lt (by omega), List.getElem?_drop, hi, hrow]
  rw [hdraw, hseen, cell_rows b c r _ _ _ (Nat.le_refl _) hget hx hy (by omega), hi]

/-- No more rows are on display than the rectangle has. -/
theorem shown_le (b : ListBox) (r : Rect) (s : Selection) :
    (b.shown r s).2 ≤ (b.shown r s).1 + r.height := by
  unfold shown Selection.bounds
  dsimp only
  split
  · dsimp only
    omega
  · split
    · dsimp only
      omega
    · split
      · dsimp only
        omega
      · dsimp only
        omega

/-- A list is drawn in its rectangle. -/
theorem draws_list (b : ListBox) (r : Rect) (s : Selection) :
    Draws (fun stroke => r.Has stroke.x stroke.y) fun c => (b.draw c r s).2 := by
  cases hempty : r.isEmpty with
  | true =>
    simp only [draw, hempty, if_true]
    exact .nothing
  | false =>
    have hwidth : 0 < r.width := by
      have hfilled : r.width ≠ 0 := fun hnone => by simp [Rect.isEmpty, hnone] at hempty
      omega
    have hshown := b.shown_le r s
    simp only [draw, hempty, Bool.false_eq_true, if_false]
    refine .foldl fun entry hentry => (b.draws_drawRow r _ _ _ entry.1).mono fun stroke hstroke => ?_
    obtain ⟨hrow, hcolumns⟩ := hstroke
    obtain ⟨hleft, hright⟩ := hcolumns hwidth
    -- The entry is one of those between the first one shown and the last.
    obtain ⟨j, hj, hget⟩ := List.getElem_of_mem hentry
    rw [List.length_take] at hj
    have hplace : entry.2 = (b.shown r s).1 + j := by
      rw [← hget, List.getElem_take, List.getElem_drop, List.getElem_zipIdx]
      exact Nat.zero_add _
    refine ⟨hleft, hright, ?_, ?_⟩
    · omega
    · change j < min ((b.shown r s).2 - (b.shown r s).1) _ at hj
      change stroke.y = r.y + (entry.2 - (b.shown r s).1) at hrow
      rw [Rect.bottom]
      omega

/-- A list that fits into its rectangle is shown from its start to its end, and a selection behind its end is
one of its last row. -/
theorem shown_of_fits {b : ListBox} {r : Rect} {k : Nat} (filled : b.rows ≠ [])
    (fits : b.rows.length ≤ r.height) :
    b.shown r ⟨some k, 0⟩ = (0, b.rows.length) ∧
      (b.settled r ⟨some k, 0⟩).index = some (min k (b.rows.length - 1)) := by
  have hpos : 0 < b.rows.length := List.length_pos_iff.2 filled
  have hsettled : (b.settled r ⟨some k, 0⟩).index = some (min k (b.rows.length - 1)) := by
    rw [settled, Selection.scroll, if_neg (Nat.ne_of_gt hpos)]
    rfl
  refine ⟨?_, hsettled⟩
  have hlast : min (0 + r.height) b.rows.length = b.rows.length := by omega
  unfold shown Selection.bounds
  simp only [hsettled, Nat.zero_min, hlast, Nat.not_lt_zero, if_false]
  rw [if_neg (by omega)]

/-- What a list that fills an empty rectangle leaves in each cell of it. -/
theorem cell_draw_of_full {b : ListBox} (pointer : b.pointer = "") {c : Canvas} {r : Rect}
    (within : r.Within c.area) (empty : ∀ x y, r.Has x y → c.cell x y = .blank)
    (full : r.height = b.rows.length) (k : Nat) {i : Nat} {row : List Span} (hrow : b.rows[i]? = some row)
    {x : Nat} (left : r.x ≤ x) (right : x < r.right) :
    (b.draw c r ⟨some k, 0⟩).2.cell x (r.y + i) =
      if i = min k (b.rows.length - 1) then (lineCell c r (r.y + i) row x).tint b.highlight
      else lineCell c r (r.y + i) row x := by
  have hi : i < b.rows.length := (List.getElem?_eq_some_iff.1 hrow).1
  have hhas : r.Has x (r.y + i) := ⟨left, right, Nat.le_add_right _ _, by rw [Rect.bottom]; omega⟩
  obtain ⟨-, hx, -, hy⟩ := within x (r.y + i) hhas
  simp only [Canvas.area, Rect.right, Rect.bottom, Nat.zero_add] at hx hy
  have hroom : r.isEmpty = false := by
    have hwidth : r.width ≠ 0 := by
      rw [Rect.right] at right
      omega
    simp [Rect.isEmpty, hwidth, show r.height ≠ 0 by omega]
  have hrows : b.rows ≠ [] := List.length_pos_iff.1 (Nat.zero_lt_of_lt hi)
  obtain ⟨hshown, hindex⟩ := shown_of_fits (k := k) hrows (Nat.le_of_eq full.symm)
  have hline : (c.drawLine (r.y + i) r.x r.right 0 row).cell x (r.y + i) = lineCell c r (r.y + i) row x := by
    refine (Canvas.draws_line _ _ _ _ row).cell_congr hx hy hx hy ?_
    rw [empty x _ hhas, Canvas.cell_blank]
  have hhere : Rect.Has ⟨r.x, r.y + i, r.width, 1⟩ x (r.y + i) :=
    ⟨left, right, Nat.le_refl _, Nat.lt_succ_self _⟩
  rw [cell_draw hroom hrow (by rw [hshown]; exact Nat.zero_le _) (by rw [hshown]; exact hi) hx hy
    (by rw [hshown, Nat.sub_zero]), drawRow_of_no_pointer pointer, hindex]
  by_cases selected : i = min k (b.rows.length - 1)
  · have hline' := Canvas.draws_line (r.y + i) r.x r.right 0 row
    rw [if_pos (by simp [selected]), if_pos selected,
      Canvas.cell_tint _ _ _ (by rwa [hline'.width]) (by rwa [hline'.height]), if_pos hhere, hline]
  · rw [if_neg (by simpa using Ne.symm selected), if_neg selected, hline]

end Lookout.ListBox
