import Lookout.Screen.Overlay
import Lookout.Screen.Paragraph
import Mathlib.Logic.Basic

/-!
# What a drawing changes

Every drawing is a list of strokes, each of which changes one cell. Which strokes these are does not depend
on what is on the canvas. So what a drawing leaves in a cell depends on that cell alone, and a cell that no
stroke meets is left as it was.

* **`cell_paint`** — a cell after strokes is what those that meet it make of it, one after the other.
* **`cell_fill`** — to fill a rectangle changes each of its cells once.
* **`Draws`** — drawings whose strokes have a property.
* **`Draws.cell_congr`** — a cell after a drawing depends on what was in it only.
* **`Draws.keeps`** — a cell keeps what every stroke that meets it keeps.
* **`Draws.cell_foldl`** — drawings in parts of their own do not touch each other.
* **`draws_line`**, **`draws_lines`** — a line is written in its row between its ends, lines in their rectangle.
* **`cell_drawLines`** — what is seen in a row in which a line is drawn.
* **`draws_panel`** — a panel is drawn in its rectangle and leaves its inner part as it is.
* **`cell_overlay`** — the inner part of an overlay has nothing in it.
-/

namespace Lookout

/-- A change of one cell. -/
structure Stroke where
  x : Nat
  y : Nat
  change : Cell → Cell

namespace Stroke

/-- The stroke meets a cell. -/
def Meets (x y : Nat) (s : Stroke) : Prop := s.x = x ∧ s.y = y

instance (x y : Nat) (s : Stroke) : Decidable (s.Meets x y) := inferInstanceAs (Decidable (_ ∧ _))

/-- The stroke writes in a row: it puts a glyph of one of the styles into a cell, adds one to it, or empties
it. -/
def Writes (y : Nat) (styles : List Style) (s : Stroke) : Prop :=
  s.y = y ∧ ((s.change = fun _ => Cell.blank) ∨
    ∃ g : Glyph, g.style ∈ styles ∧ ((s.change = fun cell => cell.put g) ∨ s.change = fun cell => cell.add g))

end Stroke

namespace Canvas

/-! ## Strokes -/

/-- The canvas after strokes. -/
def paint (c : Canvas) (strokes : List Stroke) : Canvas :=
  strokes.foldl (fun c s => c.update s.x s.y s.change) c

theorem paint_append (c : Canvas) (strokes more : List Stroke) :
    c.paint (strokes ++ more) = (c.paint strokes).paint more := List.foldl_append

@[simp] theorem paint_width (c : Canvas) (strokes : List Stroke) : (c.paint strokes).width = c.width := by
  induction strokes generalizing c with
  | nil => rfl
  | cons s strokes ih => exact (ih _).trans (update_width _ _ _ _)

@[simp] theorem paint_height (c : Canvas) (strokes : List Stroke) :
    (c.paint strokes).height = c.height := by
  induction strokes generalizing c with
  | nil => rfl
  | cons s strokes ih => exact (ih _).trans (update_height _ _ _ _)

/-- A change is not seen in another place, whether the canvas has its own place or not. -/
theorem cell_update_of_ne (c : Canvas) {x y x' y' : Nat} (apart : ¬ (x = x' ∧ y = y')) (f : Cell → Cell) :
    (c.update x y f).cell x' y' = c.cell x' y' := by
  unfold update
  split
  · next hx =>
    simp only [cell]
    split
    · next hx' =>
      have hplace : y * c.width + x ≠ y' * c.width + x' := fun h => apart (place_inj hx hx' h)
      simp [Array.getD_eq_getD_getElem?, Array.getElem?_modify, hplace]
    · rfl
  · rfl

/-- A cell after strokes is what those that meet it make of it, one after the other. -/
theorem cell_paint (c : Canvas) (strokes : List Stroke) {x y : Nat} (hx : x < c.width) (hy : y < c.height) :
    (c.paint strokes).cell x y =
      (strokes.filter (·.Meets x y)).foldl (fun cell s => s.change cell) (c.cell x y) := by
  induction strokes generalizing c with
  | nil => rfl
  | cons s strokes ih =>
    have hstep := ih (c.update s.x s.y s.change) (by rwa [update_width]) (by rwa [update_height])
    rw [show c.paint (s :: strokes) = (c.update s.x s.y s.change).paint strokes from rfl, hstep]
    by_cases meets : s.Meets x y
    · obtain ⟨rfl, rfl⟩ := meets
      have hhere := cell_update c hx hy s.change s.x s.y
      rw [if_pos ⟨rfl, rfl⟩] at hhere
      rw [hhere, List.filter_cons_of_pos (by simp [Stroke.Meets]), List.foldl_cons]
    · rw [cell_update_of_ne c meets, List.filter_cons_of_neg (by simpa using meets)]

@[simp] theorem cell_blank (width height x y : Nat) : (blank width height).cell x y = .blank := by
  simp only [cell, blank, Array.getD_eq_getD_getElem?, Array.getElem?_replicate]
  split
  · split <;> rfl
  · rfl

/-! ## Filling -/

theorem cell_fillColumns (c : Canvas) (f : Nat → Cell → Cell) (left width y : Nat) {x' y' : Nat}
    (hx : x' < c.width) (hy : y' < c.height) :
    ((List.range' left width).foldl (fun c x => c.update x y (f x)) c).cell x' y' =
      if y' = y ∧ left ≤ x' ∧ x' < left + width then f x' (c.cell x' y') else c.cell x' y' := by
  induction width generalizing left c with
  | zero => rw [if_neg (by omega)]; rfl
  | succ width ih =>
    rw [List.range'_succ, List.foldl_cons,
      ih (c.update left y (f left)) (left + 1) (by rwa [update_width]) (by rwa [update_height])]
    by_cases first : left = x' ∧ y = y'
    · obtain ⟨rfl, rfl⟩ := first
      rw [if_neg (by omega), if_pos (by omega), cell_update c hx hy, if_pos ⟨rfl, rfl⟩]
    · rw [cell_update_of_ne c first]
      refine if_congr ?_ rfl rfl
      omega

theorem fillColumns_size (c : Canvas) (f : Nat → Cell → Cell) (columns : List Nat) (y : Nat) :
    (columns.foldl (fun c x => c.update x y (f x)) c).width = c.width ∧
      (columns.foldl (fun c x => c.update x y (f x)) c).height = c.height := by
  induction columns generalizing c with
  | nil => exact ⟨rfl, rfl⟩
  | cons x columns ih =>
    obtain ⟨hwidth, hheight⟩ := ih (c.update x y (f x))
    exact ⟨hwidth.trans (update_width _ _ _ _), hheight.trans (update_height _ _ _ _)⟩

/-- To fill a rectangle changes each of its cells once. -/
theorem cell_fill (c : Canvas) (r : Rect) (f : Nat → Nat → Cell → Cell) {x' y' : Nat} (hx : x' < c.width)
    (hy : y' < c.height) :
    (c.fill r f).cell x' y' = if r.Has x' y' then f x' y' (c.cell x' y') else c.cell x' y' := by
  have hrows (height top : Nat) (c : Canvas) (hx : x' < c.width) (hy : y' < c.height) :
      ((List.range' top height).foldl (fun c y =>
          (List.range' r.x r.width).foldl (fun c x => c.update x y (f x y)) c) c).cell x' y' =
        if (top ≤ y' ∧ y' < top + height) ∧ r.x ≤ x' ∧ x' < r.x + r.width then f x' y' (c.cell x' y')
        else c.cell x' y' := by
    induction height generalizing top c with
    | zero => rw [if_neg (by omega)]; rfl
    | succ height ih =>
      obtain ⟨hwidth, hheight⟩ := fillColumns_size c (fun x => f x top) (List.range' r.x r.width) top
      rw [List.range'_succ, List.foldl_cons, ih (top + 1) _ (by rwa [hwidth]) (by rwa [hheight]),
        cell_fillColumns c (fun x => f x top) r.x r.width top hx hy]
      by_cases first : y' = top
      · subst first
        rw [if_neg (by omega)]
        refine if_congr ?_ rfl rfl
        omega
      · have hother : ¬ (y' = top ∧ r.x ≤ x' ∧ x' < r.x + r.width) := fun h => first h.1
        rw [if_neg hother]
        refine if_congr ?_ rfl rfl
        omega
  refine (hrows r.height r.y c hx hy).trans (if_congr ?_ rfl rfl)
  simp only [Rect.Has, Rect.right, Rect.bottom]
  omega

/-- A rectangle that was emptied has nothing in it. -/
theorem cell_clear (c : Canvas) {r : Rect} {x y : Nat} (hx : x < c.width) (hy : y < c.height)
    (inside : r.Has x y) : (c.clear r).cell x y = .blank := by
  rw [clear, cell_fill c r _ hx hy, if_pos inside]

theorem cell_tint (c : Canvas) (r : Rect) (s : Style) {x y : Nat} (hx : x < c.width) (hy : y < c.height) :
    (c.tint r s).cell x y = if r.Has x y then (c.cell x y).tint s else c.cell x y :=
  cell_fill c r _ hx hy

/-! ## Drawings -/

/-- The drawing is a list of strokes with a property, whatever is on the canvas. -/
def Draws (Q : Stroke → Prop) (draw : Canvas → Canvas) : Prop :=
  ∃ strokes : List Stroke, (∀ s ∈ strokes, Q s) ∧ ∀ c, draw c = c.paint strokes

namespace Draws

variable {Q R : Stroke → Prop} {draw draw' : Canvas → Canvas}

theorem nothing : Draws Q fun c => c := ⟨[], fun _ h => absurd h List.not_mem_nil, fun _ => rfl⟩

theorem update {x y : Nat} {f : Cell → Cell} (h : Q ⟨x, y, f⟩) : Draws Q fun c => c.update x y f := by
  refine ⟨[⟨x, y, f⟩], fun s hs => ?_, fun _ => rfl⟩
  rwa [List.mem_singleton.1 hs]

theorem comp (first : Draws Q draw) (second : Draws Q draw') : Draws Q fun c => draw' (draw c) := by
  obtain ⟨strokes, hstrokes, hfirst⟩ := first
  obtain ⟨more, hmore, hsecond⟩ := second
  refine ⟨strokes ++ more, fun s hs => ?_, fun c => ?_⟩
  · rcases List.mem_append.1 hs with hs | hs
    · exact hstrokes s hs
    · exact hmore s hs
  · rw [paint_append, ← hfirst, ← hsecond]

theorem mono (h : Draws Q draw) (imp : ∀ s, Q s → R s) : Draws R draw := by
  obtain ⟨strokes, hstrokes, hdraw⟩ := h
  exact ⟨strokes, fun s hs => imp s (hstrokes s hs), hdraw⟩

theorem ite {p : Prop} [Decidable p] (yes : Draws Q draw) (no : Draws Q draw') :
    Draws Q fun c => if p then draw c else draw' c := by
  by_cases h : p
  · simpa only [if_pos h] using yes
  · simpa only [if_neg h] using no

/-- A drawing that depends on a condition may use it. -/
theorem ite_of {p : Prop} [Decidable p] (yes : p → Draws Q draw) (no : ¬ p → Draws Q draw') :
    Draws Q fun c => if p then draw c else draw' c := by
  by_cases h : p
  · simpa only [if_pos h] using yes h
  · simpa only [if_neg h] using no h

theorem foldl {α : Type} {l : List α} {step : Canvas → α → Canvas}
    (h : ∀ a ∈ l, Draws Q fun c => step c a) : Draws Q fun c => l.foldl step c := by
  induction l with
  | nil => exact nothing
  | cons a l ih =>
    exact (h a List.mem_cons_self).comp (ih fun b hb => h b (List.mem_cons_of_mem a hb))

theorem fill {r : Rect} {f : Nat → Nat → Cell → Cell} (h : ∀ x y, r.Has x y → Q ⟨x, y, f x y⟩) :
    Draws Q fun c => c.fill r f := by
  refine foldl fun y hy => foldl fun x hx => update (h x y ?_)
  obtain ⟨hx, hx'⟩ := List.mem_range'_1.1 hx
  obtain ⟨hy, hy'⟩ := List.mem_range'_1.1 hy
  exact ⟨hx, hx', hy, hy'⟩

/-! ## What a drawing leaves -/

theorem width (h : Draws Q draw) (c : Canvas) : (draw c).width = c.width := by
  obtain ⟨strokes, -, hdraw⟩ := h
  rw [hdraw, paint_width]

theorem height (h : Draws Q draw) (c : Canvas) : (draw c).height = c.height := by
  obtain ⟨strokes, -, hdraw⟩ := h
  rw [hdraw, paint_height]

/-- A cell after a drawing depends on what was in it only. -/
theorem cell_congr (h : Draws Q draw) {c d : Canvas} {x y : Nat} (hx : x < c.width) (hy : y < c.height)
    (hx' : x < d.width) (hy' : y < d.height) (same : c.cell x y = d.cell x y) :
    (draw c).cell x y = (draw d).cell x y := by
  obtain ⟨strokes, -, hdraw⟩ := h
  rw [hdraw, hdraw, cell_paint c strokes hx hy, cell_paint d strokes hx' hy', same]

/-- A cell keeps what every stroke that meets it keeps. -/
theorem keeps (h : Draws Q draw) {P : Cell → Prop} {c : Canvas} {x y : Nat} (hx : x < c.width)
    (hy : y < c.height) (start : P (c.cell x y))
    (kept : ∀ s, Q s → s.Meets x y → ∀ cell, P cell → P (s.change cell)) : P ((draw c).cell x y) := by
  obtain ⟨strokes, hstrokes, hdraw⟩ := h
  rw [hdraw, cell_paint c strokes hx hy]
  refine List.foldlRecOn _ _ start fun cell hcell s hs => ?_
  obtain ⟨hs, hmeets⟩ := List.mem_filter.1 hs
  exact kept s (hstrokes s hs) (of_decide_eq_true hmeets) cell hcell

/-- A cell that no stroke meets is left as it was. -/
theorem cell_of_missed (h : Draws Q draw) {c : Canvas} {x y : Nat} (hx : x < c.width) (hy : y < c.height)
    (missed : ∀ s, Q s → ¬ s.Meets x y) : (draw c).cell x y = c.cell x y :=
  h.keeps (P := fun cell => cell = c.cell x y) hx hy rfl
    fun s hs hmeets _ _ => absurd hmeets (missed s hs)

/-- Of drawings in parts of the screen of their own, each is seen in its part as if it were alone, and outside
of all parts nothing is changed. -/
theorem cell_foldl {α : Type} {l : List α} {f : Canvas → α → Canvas} {R : α → Nat → Nat → Prop}
    (h : ∀ a ∈ l, Draws (fun s => R a s.x s.y) fun c => f c a)
    (apart : l.Pairwise fun a b => ∀ x y, R a x y → ¬ R b x y) {c : Canvas} {x y : Nat} (hx : x < c.width)
    (hy : y < c.height) :
    (∀ a ∈ l, R a x y → (l.foldl f c).cell x y = (f c a).cell x y) ∧
      ((∀ a ∈ l, ¬ R a x y) → (l.foldl f c).cell x y = c.cell x y) := by
  induction l generalizing c with
  | nil => exact ⟨List.forall_mem_nil _, fun _ => rfl⟩
  | cons first rest ih =>
    obtain ⟨hfirst, hrest⟩ := List.forall_mem_cons.1 h
    obtain ⟨hothers, hpairs⟩ := List.pairwise_cons.1 apart
    have hx' : x < (f c first).width := by rwa [hfirst.width]
    have hy' : y < (f c first).height := by rwa [hfirst.height]
    obtain ⟨hone, hnone⟩ := ih hrest hpairs hx' hy'
    have hmissed (hout : ¬ R first x y) : (f c first).cell x y = c.cell x y := by
      refine hfirst.cell_of_missed hx hy fun s hs hmeets => hout ?_
      rwa [← hmeets.1, ← hmeets.2]
    constructor
    · intro a ha hpart
      rcases List.mem_cons.1 ha with rfl | ha
      · exact hnone fun b hb => hothers b hb x y hpart
      · -- The first drawing has left this part as it was.
        have hout : ¬ R first x y := fun hboth => hothers a ha x y hboth hpart
        exact (hone a ha hpart).trans ((hrest a ha).cell_congr hx' hy' hx hy (hmissed hout))
    · intro hout
      obtain ⟨hhere, hrest'⟩ := List.forall_mem_cons.1 hout
      exact (hnone hrest').trans (hmissed hhere)

end Draws

/-! ## Lines -/

/-- Glyphs are drawn between two columns if they begin there: the first one in a column between them, and a
later one at the latest where the last one ended. -/
def Begins (left right x : Nat) (isFirst : Bool) : Prop :=
  left ≤ x ∧ left < right ∧ (isFirst = true → x < right)

/-- Glyphs are written in their row and their styles, and between the columns between which they begin. -/
theorem draws_glyphs (y left right : Nat) {styles : List Style} {glyphs : List Glyph}
    (inked : ∀ g ∈ glyphs, g.style ∈ styles) (x : Nat) (isFirst : Bool) :
    Draws (fun s => s.Writes y styles ∧ (Begins left right x isFirst → left ≤ s.x ∧ s.x < right))
      fun c => c.drawGlyphs y left right x isFirst glyphs := by
  induction glyphs generalizing x isFirst with
  | nil => exact .nothing
  | cons g rest ih =>
    refine .ite_of (fun _ => .nothing) fun room => ?_
    have hput (x' : Nat) (hx' : Begins left right x isFirst → left ≤ x' ∧ x' < right) :
        Draws (fun s => s.Writes y styles ∧ (Begins left right x isFirst → left ≤ s.x ∧ s.x < right))
          fun c => c.update x' y fun cell => cell.put g :=
      .update ⟨⟨rfl, .inr ⟨g, inked g List.mem_cons_self, .inl rfl⟩⟩, hx'⟩
    have hadd (x' : Nat) (hx' : Begins left right x isFirst → left ≤ x' ∧ x' < right) :
        Draws (fun s => s.Writes y styles ∧ (Begins left right x isFirst → left ≤ s.x ∧ s.x < right))
          fun c => c.update x' y fun cell => cell.add g :=
      .update ⟨⟨rfl, .inr ⟨g, inked g List.mem_cons_self, .inr rfl⟩⟩, hx'⟩
    have hglyph := Draws.ite_of (fun first => hput x fun h => ⟨h.1, h.2.2 first⟩)
      fun _ => Draws.ite_of (fun (start : x = left) => hadd x fun h => ⟨h.1, start ▸ h.2.1⟩)
        fun start => Draws.ite_of (p := g.columns = 0)
          (fun _ => hadd (x - 1) fun h => by have := h.1; omega)
          fun wide => hput x fun h => by have := h.1; omega
    have hclear : Draws (fun s => s.Writes y styles ∧
        (Begins left right x isFirst → left ≤ s.x ∧ s.x < right))
          fun c => c.clear ⟨x + 1, y, g.columns - 1, 1⟩ := by
      refine .fill fun x' y' inside => ⟨⟨?_, .inl rfl⟩, fun h => ?_⟩
      · obtain ⟨-, -, hlow, hhigh⟩ := inside
        exact Nat.le_antisymm (Nat.le_of_lt_succ hhigh) hlow
      · obtain ⟨hfrom, hto, -, -⟩ := inside
        have hleft := h.1
        simp only [Rect.right] at hfrom hto ⊢
        omega
    have hrest := (ih (fun g' hg' => inked g' (List.mem_cons_of_mem g hg')) (x + g.columns) false).mono
      fun s hs => (⟨hs.1, fun h => hs.2 ⟨Nat.le_add_right_of_le h.1, h.2.1, fun first =>
          absurd first Bool.false_ne_true⟩⟩ :
        s.Writes y styles ∧ (Begins left right x isFirst → left ≤ s.x ∧ s.x < right))
    exact (hglyph.comp hclear).comp hrest

theorem draws_spans (y right : Nat) {styles : List Style} {spans : List (Nat × Span × Nat)}
    (inked : ∀ s ∈ spans, s.2.1.style ∈ styles) (left : Nat) :
    Draws (fun s => s.Writes y styles ∧ left ≤ s.x ∧ s.x < right)
      fun c => c.drawSpans y left right spans := by
  induction spans generalizing left with
  | nil => exact .nothing
  | cons s rest ih =>
    obtain ⟨indent, s, claim⟩ := s
    refine .ite_of (fun _ => .nothing) fun room => ?_
    have hglyphs : ∀ g ∈ s.glyphs, g.style ∈ styles := by
      intro g hg
      obtain ⟨symbol, -, rfl⟩ := List.mem_map.1 hg
      exact inked _ List.mem_cons_self
    have hbegins : Begins (left + indent) right (left + indent) true :=
      ⟨Nat.le_refl _, Nat.lt_of_not_le room, fun _ => Nat.lt_of_not_le room⟩
    have hfirst := (draws_glyphs y (left + indent) right hglyphs (left + indent) true).mono
      fun s hs => (⟨hs.1, Nat.le_of_add_right_le (hs.2 hbegins).1, (hs.2 hbegins).2⟩ :
        s.Writes y styles ∧ left ≤ s.x ∧ s.x < right)
    have hrest := (ih (fun s' hs' => inked s' (List.mem_cons_of_mem _ hs')) (left + indent + claim)).mono
      fun s hs => (⟨hs.1, by have := hs.2.1; omega, hs.2.2⟩ : s.Writes y styles ∧ left ≤ s.x ∧ s.x < right)
    exact hfirst.comp hrest

/-- What is left of a line has the styles of the line. -/
theorem style_of_spansAfter {line : List Span} {skip : Nat} {s : Nat × Span × Nat}
    (h : s ∈ spansAfter skip line) : s.2.1.style ∈ line.map (·.style) := by
  induction line generalizing skip with
  | nil => exact absurd h List.not_mem_nil
  | cons first rest ih =>
    rw [spansAfter] at h
    rw [List.map_cons]
    split at h
    · exact List.mem_cons_of_mem _ (ih h)
    · split at h
      · rcases List.mem_cons.1 h with rfl | h
        · exact List.mem_cons_self
        · exact List.mem_cons_of_mem _ (ih h)
      · rcases List.mem_cons.1 h with rfl | h
        · exact List.mem_cons_self
        · exact List.mem_cons_of_mem _ (ih h)

/-- A line is written in its row between its ends, in its own styles. -/
theorem draws_line (y left right skip : Nat) (line : List Span) :
    Draws (fun s => s.Writes y (line.map (·.style)) ∧ left ≤ s.x ∧ s.x < right)
      fun c => c.drawLine y left right skip line :=
  draws_spans y right (fun _ h => style_of_spansAfter h) left

/-- A row of glyphs is written in the columns that it takes. -/
theorem draws_glyphRow (y x : Nat) (glyphs : List Glyph) :
    Draws (fun s => s.y = y ∧ x ≤ s.x ∧ s.x < x + Glyph.rowColumns glyphs)
      fun c => c.drawRow y x glyphs := by
  induction glyphs generalizing x with
  | nil => exact .nothing
  | cons g rest ih =>
    have hsplit : Glyph.rowColumns (g :: rest) = g.columns + Glyph.rowColumns rest := rfl
    refine .ite_of (fun narrow => (ih x).mono fun s hs => ?_) fun wide => ?_
    · rwa [hsplit, narrow, Nat.zero_add]
    · have hput : Draws (fun s => s.y = y ∧ x ≤ s.x ∧ s.x < x + Glyph.rowColumns (g :: rest))
          fun c => c.update x y fun cell => cell.put g :=
        .update ⟨rfl, Nat.le_refl x, by dsimp only; omega⟩
      refine hput.comp ((ih (x + g.columns)).mono fun s hs => ?_)
      omega

/-- The places of the members of a list go up. -/
theorem pairwise_zipIdx {α : Type} (l : List α) (n : Nat) :
    (l.zipIdx n).Pairwise fun p q => p.2 < q.2 := by
  rw [← List.pairwise_map (f := Prod.snd) (R := (· < ·)), List.zipIdx_map_snd]
  exact List.pairwise_lt_range'

/-- Rows of glyphs are written in the rows of their rectangle, from its left edge on. -/
theorem draws_rows (r : Rect) (rows : List (List Glyph)) :
    Draws (fun s => (r.y ≤ s.y ∧ s.y < r.bottom) ∧ r.x ≤ s.x ∧
      ∃ row ∈ rows, s.x < r.x + Glyph.rowColumns row) fun c => c.drawRows r rows := by
  refine .ite .nothing (.foldl fun row hrow => ?_)
  obtain ⟨glyphs, y⟩ := row
  have hplace := List.snd_lt_of_mem_zipIdx hrow
  have hstart := List.le_snd_of_mem_zipIdx hrow
  have hlength := List.length_take_le r.height rows
  have hmem : glyphs ∈ rows := List.mem_of_mem_take (List.fst_mem_of_mem_zipIdx hrow)
  refine (draws_glyphRow y r.x glyphs).mono fun s hs => ⟨?_, hs.2.1, glyphs, hmem, hs.2.2⟩
  have hy := hs.1
  simp only [Rect.bottom] at hplace ⊢
  omega

/-- Lines that are cut at the right edge are written in their rectangle. -/
theorem draws_lines (r : Rect) (lines : List (List Span)) :
    Draws (fun s => r.Has s.x s.y) fun c => c.drawLines r lines := by
  refine (draws_rows r (cutRows r.width (lines.take r.height))).mono fun s hs => ?_
  obtain ⟨⟨htop, hbottom⟩, hleft, row, hrow, hright⟩ := hs
  obtain ⟨line, -, rfl⟩ := List.mem_map.1 hrow
  have hfits := columns_fitRow (Nat.zero_le r.width) (line.flatMap Span.glyphs)
  refine ⟨hleft, ?_, htop, hbottom⟩
  rw [Rect.right]
  omega

/-- The glyphs of a line that fit into some columns. -/
def cutLine (room : Nat) (line : List Span) : List Glyph := fitRow room 0 (line.flatMap Span.glyphs)

/-- In each row of a rectangle in which lines are drawn, the line of its number is seen, and what was there if
there are fewer lines. -/
theorem cell_drawLines (c : Canvas) {r : Rect} (lines : List (List Span)) {x y : Nat} (hx : x < c.width)
    (hy : y < c.height) (inside : r.Has x y) : (c.drawLines r lines).cell x y =
      (c.drawRow y r.x (cutLine r.width (lines.getD (y - r.y) []))).cell x y := by
  obtain ⟨hleft, hright, htop, hbottom⟩ := inside
  have hplace : y - r.y < r.height := by
    rw [Rect.bottom] at hbottom
    omega
  have filled : r.isEmpty = false := by
    rw [Rect.right] at hright
    rw [Rect.isEmpty, Bool.or_eq_false_iff, decide_eq_false_iff_not, decide_eq_false_iff_not]
    omega
  let rows := (cutRows r.width (lines.take r.height)).take r.height
  have hrow : rows[y - r.y]? = lines[y - r.y]?.map (cutLine r.width) := by
    simp only [rows, cutRows, List.getElem?_take, hplace, if_true, List.getElem?_map]
    rfl
  have hdraw : c.drawLines r lines = (rows.zipIdx r.y).foldl (fun c p => c.drawRow p.2 r.x p.1) c := by
    rw [drawLines, drawRows, filled]
    rfl
  obtain ⟨hone, hnone⟩ := Draws.cell_foldl (c := c) (x := x) (y := y) (l := rows.zipIdx r.y)
    (f := fun c p => c.drawRow p.2 r.x p.1) (R := fun p _ y => y = p.2)
    (fun p _ => (draws_glyphRow p.2 r.x p.1).mono fun _ hs => hs.1)
    ((pairwise_zipIdx rows r.y).imp fun hlt _ _ hp hq => by omega) hx hy
  rw [hdraw, List.getD_eq_getElem?_getD]
  cases hline : lines[y - r.y]? with
  | some line =>
    rw [hline] at hrow
    have hmem : (cutLine r.width line, r.y + (y - r.y)) ∈ rows.zipIdx r.y :=
      List.mk_add_mem_zipIdx_iff_getElem?.2 hrow
    rw [Nat.add_sub_cancel' htop] at hmem
    exact hone _ hmem rfl
  | none =>
    rw [hline] at hrow
    refine hnone fun p hp heq => ?_
    obtain ⟨k, hk⟩ : ∃ k, p.2 = r.y + k := ⟨p.2 - r.y, by have := List.le_snd_of_mem_zipIdx hp; omega⟩
    have hget : rows[k]? = some p.1 := List.mk_add_mem_zipIdx_iff_getElem?.1 (by rwa [← hk])
    rw [heq, hk, Nat.add_sub_cancel_left, hget] at hrow
    cases hrow

/-- If the last row is a coordinate, the lines are drawn that the window has. -/
theorem drawScrolled_eq (c : Canvas) {r : Rect} {scroll : Nat} (fits : r.height + scroll < coordinateValues)
    (lines : List (List Span)) :
    c.drawScrolled r scroll lines = .ok (c.drawLines r (window scroll r.height lines)) := by
  unfold drawScrolled
  split
  · next hnone =>
    rcases Bool.or_eq_true_iff.1 hnone with hempty | hempty
    · rw [drawLines, drawRows, if_pos hempty]
    · rw [List.isEmpty_iff.1 hempty, drawLines, drawRows]
      simp [window, cutRows]
  · rw [if_neg (Nat.not_le.2 fits)]

/-! ## Boxes -/

/-- A title in the middle gets no more columns than there are. -/
theorem centerTitle_le (room claim : Nat) :
    (Panel.centerTitle room claim).1 + (Panel.centerTitle room claim).2.1 ≤ room := by
  unfold Panel.centerTitle
  split
  · dsimp only
    omega
  · dsimp only
    split
    · dsimp only
      omega
    · dsimp only
      omega

/-- A title is written in the upper edge of its rectangle. -/
theorem draws_title (p : Panel) (r : Rect) :
    Draws (fun s => s.y = r.y ∧ r.x < s.x ∧ s.x + 1 < r.right) fun c => p.drawTitle c r := by
  have hroom (place : Nat × Nat × Nat) (fits : place.1 + place.2.1 ≤ r.width - 2) :
      Draws (fun s => s.y = r.y ∧ r.x < s.x ∧ s.x + 1 < r.right) fun c =>
        c.drawLine r.y (r.x + 1 + place.1) (r.x + 1 + place.1 + place.2.1) place.2.2 p.title := by
    refine (draws_line r.y _ _ _ p.title).mono fun s hs => ⟨hs.1.1, ?_⟩
    obtain ⟨-, hleft, hright⟩ := hs
    rw [Rect.right]
    omega
  refine hroom (if p.isCentered then Panel.centerTitle (r.width - 2) (Span.lineColumns p.title)
    else (0, min (Span.lineColumns p.title) (r.width - 2), 0)) ?_
  split
  · exact centerTitle_le _ _
  · dsimp only
    omega

/-- A panel is drawn in its rectangle and leaves its inner part as it is. -/
theorem draws_panel (p : Panel) (r : Rect) :
    Draws (fun s => r.Has s.x s.y ∧ (r.inner.Has s.x s.y → s.change = id)) fun c => p.draw c r := by
  have hborder : Draws (fun s => r.Has s.x s.y ∧ (r.inner.Has s.x s.y → s.change = id))
      fun c => p.drawBorder c r := by
    refine .fill fun x y hhas => ⟨hhas, fun hinner => ?_⟩
    have hnone : Panel.edge? r x y = none := by
      rw [← Option.not_isSome_iff_eq_none, Panel.isSome_edge_iff hhas, not_not]
      exact hinner
    funext cell
    simp only [hnone, id]
  refine .ite_of (fun _ => .nothing) fun filled => hborder.comp ((draws_title p r).mono fun s hs => ?_)
  have hheight : r.height ≠ 0 := fun hnone => filled (by simp [Rect.isEmpty, hnone])
  obtain ⟨hrow, hleft, hright⟩ := hs
  simp only [Rect.Has, Rect.inner, Rect.right, Rect.bottom] at hright ⊢
  refine ⟨by omega, fun hinner => ?_⟩
  omega

/-- In its inner part, a panel leaves every cell as it was. -/
theorem cell_panel (p : Panel) (c : Canvas) {r : Rect} {x y : Nat} (hx : x < c.width) (hy : y < c.height)
    (inside : r.inner.Has x y) : (p.draw c r).cell x y = c.cell x y := by
  refine (draws_panel p r).keeps (P := (· = c.cell x y)) hx hy rfl fun s hs hmeets cell hcell => ?_
  rw [hs.2 (by rwa [hmeets.1, hmeets.2])]
  exact hcell

/-- The inner part of an overlay has nothing in it, and the canvas keeps its size. -/
theorem cell_overlay {c c' : Canvas} {page inner : Rect} {height : Nat} {title : String}
    (drawn : Overlay.draw c page height title = .ok (inner, c')) :
    (∃ r, Overlay.area? page height = .ok r ∧ inner = r.inner) ∧ c'.width = c.width ∧ c'.height = c.height ∧
      ∀ x y, x < c.width → y < c.height → inner.Has x y → c'.cell x y = .blank := by
  unfold Overlay.draw at drawn
  match harea : Overlay.area? page height with
  | .error _ => rw [harea] at drawn; cases drawn
  | .ok r =>
    rw [harea] at drawn
    obtain ⟨rfl, rfl⟩ := Prod.mk.inj (Except.ok.inj drawn)
    have hclear : Draws (fun _ => True) fun c => c.clear r := .fill fun _ _ _ => trivial
    have hpanel := draws_panel (.left .yellow (.plain title)) r
    refine ⟨⟨r, rfl, rfl⟩, (hpanel.width _).trans (hclear.width c),
      (hpanel.height _).trans (hclear.height c), fun x y hx hy hinner => ?_⟩
    rw [cell_panel _ _ (by rwa [hclear.width]) (by rwa [hclear.height]) hinner,
      cell_clear c hx hy (Rect.within_inner r x y hinner)]

end Canvas

end Lookout
