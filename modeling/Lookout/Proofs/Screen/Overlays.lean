import Lookout.Proofs.Input.Highlight
import Lookout.Proofs.Screen.Toasts

/-!
# Where overlays are drawn

The palette and the box of a filter lie over the upper left of a page, one cell from its corner, and end where
the page ends. They cover exactly their boxes. Of the steps in which the boxes are found one can fail: sixty
times the width of the page has to be a coordinate, which it is on a screen of up to 1092 columns.

* **`covers_of_draws`** — what is drawn into a cleared rectangle covers it.
* **`box_eq`** — where an overlay lies.
* **`widthChecked_eq`** — when its width is found.
* **`Palette.draw_open`**, **`Filter.draw_open`** — what an overlay draws.
* **`overlays_placed`** — all of that, on every screen.
-/

namespace Lookout

open Checked
open Canvas (Draws)

/-! ## Covered rectangles -/

/-- A drawing covers a rectangle: the canvas keeps its size, outside of the rectangle nothing is changed, and
in it nothing is seen of what was there. -/
structure Canvas.Covers (r : Rect) (draw : Canvas → Canvas) : Prop where
  size : ∀ c, (draw c).width = c.width ∧ (draw c).height = c.height
  outside : ∀ (c : Canvas) {x y : Nat}, x < c.width → y < c.height → ¬ r.Has x y →
    (draw c).cell x y = c.cell x y
  inside : ∀ (c d : Canvas) {x y : Nat}, x < c.width → y < c.height → x < d.width → y < d.height →
    r.Has x y → (draw c).cell x y = (draw d).cell x y

/-- What is drawn into a rectangle that has been cleared covers it. -/
theorem Canvas.covers_of_draws {r : Rect} {draw : Canvas → Canvas}
    (h : Draws (fun s => r.Has s.x s.y) draw) : Covers r fun c => draw (c.clear r) := by
  have hclear : Draws (fun s => r.Has s.x s.y) fun c => c.clear r := .fill fun _ _ hhas => hhas
  have hboth := hclear.comp h
  constructor
  · intro c
    exact ⟨hboth.width c, hboth.height c⟩
  · intro c x y hx hy hout
    refine hboth.cell_of_missed hx hy fun s hs hmeets => hout ?_
    rwa [← hmeets.1, ← hmeets.2]
  · intro c d x y hx hy hx' hy' hin
    refine h.cell_congr (by rwa [hclear.width]) (by rwa [hclear.height]) (by rwa [hclear.width])
      (by rwa [hclear.height]) ?_
    rw [cell_clear c hx hy hin, cell_clear d hx' hy' hin]

/-! ## Boxes -/

namespace Overlay

/-- Where an overlay of a height lies on a page. -/
def box (page : Rect) (height : Nat) : Rect :=
  Rect.intersect ⟨page.x + 1, page.y + 1, width page.width, height⟩ page

theorem box_within (page : Rect) (height : Nat) : (box page height).Within page :=
  Rect.within_intersect_right _ _

/-- An overlay begins one cell from the corner of the page and is cut where the page ends. -/
theorem box_eq (page : Rect) (height : Nat) :
    box page height = ⟨page.x + 1, page.y + 1, min (width page.width) (page.width - 1),
      min height (page.height - 1)⟩ := by
  have hx : max (page.x + 1) page.x = page.x + 1 := by omega
  have hy : max (page.y + 1) page.y = page.y + 1 := by omega
  have hright : min (page.x + 1 + width page.width) (page.x + page.width) - (page.x + 1) =
      min (width page.width) (page.width - 1) := by omega
  have hbottom : min (page.y + 1 + height) (page.y + page.height) - (page.y + 1) =
      min height (page.height - 1) := by omega
  rw [box, Rect.intersect]
  simp only [Rect.right, Rect.bottom, hx, hy, hright, hbottom]

/-- An overlay is drawn as a panel into its box. -/
theorem draw_eq {page : Rect} (fits : Fits page.width) (c : Canvas) (height : Nat) (title : String) :
    draw c page height title = .ok ((box page height).inner,
      (Panel.left .yellow (.plain title)).draw (c.clear (box page height)) (box page height)) := by
  rw [draw, area?, if_pos fits]
  rfl

/-- Nothing is drawn on a page that is too wide. -/
theorem draw_of_wide {page : Rect} (wide : ¬ Fits page.width) (c : Canvas) (height : Nat) (title : String) :
    draw c page height title = .error .overlayWidth := by
  rw [draw, area?, if_neg wide]
  rfl

/-! ## Steps that can fail -/

/-- A product of coordinates, which has to be one. -/
def timesCoordinate (n m : Nat) : Except Crash Nat :=
  if n * m < coordinateValues then .ok (n * m) else .error .count

/-- The width of an overlay, in steps that can fail. -/
def widthChecked (room : Nat) : Except Crash Nat := do
  let product ← timesCoordinate room 60
  .ok (min (min (max (product / 100) 30) 60) room)

/-- The box of an overlay of a height, in steps that can fail. -/
def boxChecked (page : Rect) (height : Nat) : Except Crash Rect := do
  let columns ← widthChecked page.width
  let x ← plusCoordinate page.x 1
  let y ← plusCoordinate page.y 1
  .ok (Rect.intersect ⟨x, y, columns, height⟩ page)

/-- The width is found exactly if sixty times the width of the page is a coordinate. -/
theorem widthChecked_eq (room : Nat) :
    widthChecked room = if Fits room then .ok (width room) else .error .count := by
  unfold widthChecked
  by_cases fits : Fits room
  · have hproduct : timesCoordinate room 60 = .ok (room * 60) := if_pos fits
    rw [hproduct, if_pos fits]
    rfl
  · have hproduct : timesCoordinate room 60 = .error .count := if_neg fits
    rw [hproduct, if_neg fits]
    rfl

/-- On a page that does not begin in the last row or column there is, the box is found exactly if the width
is. -/
theorem boxChecked_eq {page : Rect} (left : page.x + 1 < coordinateValues)
    (top : page.y + 1 < coordinateValues) (height : Nat) :
    boxChecked page height = if Fits page.width then .ok (box page height) else .error .count := by
  unfold boxChecked
  rw [widthChecked_eq]
  by_cases fits : Fits page.width
  · rw [if_pos fits, if_pos fits, ok_bind, plusCoordinate_eq left, ok_bind, plusCoordinate_eq top, ok_bind]
    rfl
  · rw [if_neg fits, if_neg fits]
    rfl

end Overlay

/-! ## The palette -/

namespace Palette

variable {p : Palette} {page : Rect}

/-- The rows of the palette, in steps that can fail. -/
def rowsChecked (p : Palette) (page : Rect) : Except Crash Nat := do
  let rows ← plusCoordinate 3 (min p.suggestions.length roomForSuggestions)
  .ok (min rows page.height)

/-- Where the palette is drawn on a page, in steps that can fail. -/
def boxChecked (p : Palette) (page : Rect) : Except Crash Rect := do
  let rows ← p.rowsChecked page
  Overlay.boxChecked page rows

/-- What the palette draws into its box: the border, the text typed, and the suggestions. -/
def paint (p : Palette) (r : Rect) (c : Canvas) : Canvas :=
  let c := (Panel.left .yellow (.plain " Command ")).draw c r
  let c := c.drawLines (r.inner.splitTop 1).1 [p.editor.line ":"]
  if p.suggestions.isEmpty then c else (p.listBox.draw c (r.inner.splitTop 1).2 ⟨some p.selected, 0⟩).2

theorem rowsChecked_eq (p : Palette) (page : Rect) : p.rowsChecked page =
    .ok (min (3 + min p.suggestions.length roomForSuggestions) page.height) := by
  have hrows : 3 + min p.suggestions.length roomForSuggestions < coordinateValues := by
    simp only [roomForSuggestions, coordinateValues]
    omega
  rw [rowsChecked, plusCoordinate_eq hrows]
  rfl

/-- The palette is drawn in its box. -/
theorem draws_paint (p : Palette) (r : Rect) : Draws (fun s => r.Has s.x s.y) (p.paint r) := by
  have hpanel := (Canvas.draws_panel (.left .yellow (.plain " Command ")) r).mono fun _ hs => hs.1
  have hinput := (Canvas.draws_lines (r.inner.splitTop 1).1 [p.editor.line ":"]).mono fun s hs =>
    Rect.within_inner r s.x s.y (Rect.within_splitTop_fst r.inner 1 s.x s.y hs)
  have hlist := (p.listBox.draws_list (r.inner.splitTop 1).2 ⟨some p.selected, 0⟩).mono fun s hs =>
    Rect.within_inner r s.x s.y (Rect.within_splitTop_snd r.inner 1 s.x s.y hs)
  exact (hpanel.comp hinput).comp (.ite .nothing hlist)

/-- On a page that an overlay fits on, the open palette is drawn into its box. -/
theorem draw_open (isOpen : p.isOpen = true) (fits : Overlay.Fits page.width) (c : Canvas) :
    p.draw c page = .ok (p.paint (p.box page) (c.clear (p.box page))) := by
  rw [draw, if_pos isOpen]
  dsimp only
  rw [Overlay.draw_eq fits]
  rfl

/-- On a page that is too wide, the open palette ends the program. -/
theorem draw_open_of_wide (isOpen : p.isOpen = true) (wide : ¬ Overlay.Fits page.width) (c : Canvas) :
    p.draw c page = .error .overlayWidth := by
  rw [draw, if_pos isOpen]
  dsimp only
  rw [Overlay.draw_of_wide wide]
  rfl

end Palette

/-! ## Filters -/

namespace Filter

variable {f : Filter} {page : Rect}

/-- Where the box of a filter is drawn on a page. -/
def box (page : Rect) : Rect := Overlay.box page 3

/-- What a filter draws into its box: the border and the text typed. -/
def paint (f : Filter) (r : Rect) (c : Canvas) : Canvas :=
  ((Panel.left .yellow (.plain " Filter ")).draw c r).drawLines r.inner [f.editor.line "/"]

/-- A filter is drawn in its box. -/
theorem draws_paint (f : Filter) (r : Rect) : Draws (fun s => r.Has s.x s.y) (f.paint r) := by
  have hpanel := (Canvas.draws_panel (.left .yellow (.plain " Filter ")) r).mono fun _ hs => hs.1
  exact hpanel.comp ((Canvas.draws_lines r.inner [f.editor.line "/"]).mono fun s hs =>
    Rect.within_inner r s.x s.y hs)

/-- On a page that an overlay fits on, an open filter is drawn into its box. -/
theorem draw_open (isOpen : f.isOpen = true) (fits : Overlay.Fits page.width) (c : Canvas) :
    f.draw c page = .ok (f.paint (box page) (c.clear (box page))) := by
  rw [draw, if_pos isOpen, Overlay.draw_eq fits]
  rfl

/-- On a page that is too wide, an open filter ends the program. -/
theorem draw_open_of_wide (isOpen : f.isOpen = true) (wide : ¬ Overlay.Fits page.width) (c : Canvas) :
    f.draw c page = .error .overlayWidth := by
  rw [draw, if_pos isOpen, Overlay.draw_of_wide wide]
  rfl

end Filter

/-! ## Both on a screen -/

namespace Overlay

/-- On every screen, for every palette and filter: their boxes begin one cell from the corner of the page and
have sixty per cent of its columns, but not less than thirty nor more than sixty, nor more than the page has,
cut at its right edge; no cell of theirs lies outside the page. If sixty times the columns of the screen are a
coordinate, no step in which the boxes are found fails, and an open palette or filter covers its box, whatever
is on the canvas. Otherwise the step fails in which the product is taken, and to draw an open palette or filter
ends the program. A closed one draws nothing. -/
theorem overlays_placed (p : Palette) (f : Filter) (columns rows : Nat) :
    let page := (App.layout ⟨0, 0, columns, rows⟩).2.1
    let room := min (min columns (min (max (columns * 60 / 100) 30) 60)) (columns - 1)
    (p.box page = ⟨page.x + 1, page.y + 1, room,
        min (3 + min p.suggestions.length 8) (page.height - 1)⟩ ∧ (p.box page).Within page) ∧
    (Filter.box page = ⟨page.x + 1, page.y + 1, room, min 3 (page.height - 1)⟩ ∧
      (Filter.box page).Within page) ∧
    (columns * 60 < coordinateValues →
      p.boxChecked page = .ok (p.box page) ∧ boxChecked page 3 = .ok (Filter.box page) ∧
      (p.isOpen = true → ∃ paint, Canvas.Covers (p.box page) paint ∧ ∀ c, p.draw c page = .ok (paint c)) ∧
      (f.isOpen = true → ∃ paint, Canvas.Covers (Filter.box page) paint ∧
        ∀ c, f.draw c page = .ok (paint c))) ∧
    (coordinateValues ≤ columns * 60 →
      p.boxChecked page = .error .count ∧ boxChecked page 3 = .error .count ∧
      (p.isOpen = true → ∀ c, p.draw c page = .error .overlayWidth) ∧
      (f.isOpen = true → ∀ c, f.draw c page = .error .overlayWidth)) ∧
    (p.isOpen = false → ∀ c, p.draw c page = .ok c) ∧ (f.isOpen = false → ∀ c, f.draw c page = .ok c) := by
  intro page room
  obtain ⟨hx, hwidth, hy, hbottom⟩ :
      page.x = 0 ∧ page.width = columns ∧ page.y ≤ 1 ∧ page.bottom ≤ rows := Toast.layout_page columns rows
  have hleft : page.x + 1 < coordinateValues := by
    rw [hx]
    decide
  have htop : page.y + 1 < coordinateValues := Nat.lt_of_le_of_lt (Nat.succ_le_succ hy) (by decide)
  have hroom : min (width page.width) (page.width - 1) = room := by
    rw [hwidth, width, Nat.min_comm _ columns]
  have hfits : Fits page.width ↔ columns * 60 < coordinateValues := by rw [hwidth, Fits]
  have hpalette : p.boxChecked page = boxChecked page
      (min (3 + min p.suggestions.length Palette.roomForSuggestions) page.height) := by
    rw [Palette.boxChecked, p.rowsChecked_eq, ok_bind]
  refine ⟨⟨?_, box_within page _⟩, ⟨?_, box_within page _⟩, fun narrow => ?_, fun broad => ?_, ?_, ?_⟩
  · have hrows : min (min (3 + min p.suggestions.length 8) page.height) (page.height - 1) =
        min (3 + min p.suggestions.length 8) (page.height - 1) := by omega
    refine (box_eq page _).trans ?_
    rw [hroom, Palette.roomForSuggestions, hrows]
  · exact (box_eq page 3).trans (by rw [hroom])
  · have fits := hfits.2 narrow
    refine ⟨?_, ?_, fun isOpen => ?_, fun isOpen => ?_⟩
    · rw [hpalette, boxChecked_eq hleft htop, if_pos fits]
      rfl
    · rw [boxChecked_eq hleft htop, if_pos fits]
      rfl
    · exact ⟨_, Canvas.covers_of_draws (p.draws_paint (p.box page)), Palette.draw_open isOpen fits⟩
    · exact ⟨_, Canvas.covers_of_draws (f.draws_paint (Filter.box page)), Filter.draw_open isOpen fits⟩
  · have hwide : ¬ Fits page.width := fun fits => Nat.not_lt.2 broad (hfits.1 fits)
    refine ⟨?_, ?_, fun isOpen c => ?_, fun isOpen c => ?_⟩
    · rw [hpalette, boxChecked_eq hleft htop, if_neg hwide]
    · rw [boxChecked_eq hleft htop, if_neg hwide]
    · exact Palette.draw_open_of_wide isOpen hwide c
    · exact Filter.draw_open_of_wide isOpen hwide c
  · intro closed c
    rw [Palette.draw, closed, if_neg Bool.false_ne_true]
  · intro closed c
    rw [Filter.draw, closed, if_neg Bool.false_ne_true]

/-- On a screen of 80 columns and 24 rows, the palette of the nine commands takes 48 columns and eleven rows, and
a filter takes the first three of them. -/
theorem boxes_on_eighty_columns :
    80 * 60 < coordinateValues ∧ (App.layout ⟨0, 0, 80, 24⟩).2.1 = ⟨0, 1, 80, 22⟩ ∧
    Palette.secondOfNine.isOpen = true ∧ Palette.secondOfNine.boxChecked ⟨0, 1, 80, 22⟩ = .ok ⟨1, 2, 48, 11⟩ ∧
    (∃ paint, Canvas.Covers ⟨1, 2, 48, 11⟩ paint ∧
      ∀ c, Palette.secondOfNine.draw c ⟨0, 1, 80, 22⟩ = .ok (paint c)) ∧
    (∃ paint, Canvas.Covers ⟨1, 2, 48, 3⟩ paint ∧
      ∀ c, Filter.draw ⟨.empty, true⟩ c ⟨0, 1, 80, 22⟩ = .ok (paint c)) := by
  obtain ⟨⟨hpalette, -⟩, ⟨hfilter, -⟩, hnarrow, -⟩ := overlays_placed Palette.secondOfNine ⟨.empty, true⟩ 80 24
  have hopen : Palette.secondOfNine.isOpen = true := by decide +kernel
  have hcount : min Palette.secondOfNine.suggestions.length 8 = 8 := by decide +kernel
  obtain ⟨hchecked, -, hcommand, hquery⟩ := hnarrow (by decide)
  rw [hpalette, hcount] at hchecked hcommand
  rw [hfilter] at hquery
  exact ⟨by decide, rfl, hopen, hchecked, hcommand hopen, hquery rfl⟩

/-- On a screen of 1093 columns, an open filter is not drawn. -/
theorem no_box_on_wide_screen : ¬ ∀ (f : Filter) (columns rows : Nat) (c : Canvas), columns < coordinateValues →
    rows < coordinateValues → c.width = columns → c.height = rows → f.isOpen = true →
    ∃ drawn, f.draw c (App.layout ⟨0, 0, columns, rows⟩).2.1 = .ok drawn := by
  intro claim
  obtain ⟨drawn, hdrawn⟩ := claim ⟨.empty, true⟩ 1093 9 (.blank 1093 9) (by decide) (by decide) rfl rfl rfl
  have hwide : ¬ Fits (App.layout ⟨0, 0, 1093, 9⟩).2.1.width := by decide
  have hfault := Filter.draw_open_of_wide (f := ⟨.empty, true⟩) rfl hwide (.blank 1093 9)
  rw [hfault] at hdrawn
  cases hdrawn

end Overlay

end Lookout
