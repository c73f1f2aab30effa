import Lookout.Proofs.Input.Choice
import Lookout.Proofs.Screen.Lists

/-!
# What the palette highlights

The palette draws the first suggestions only, as many as it has room for, but hands the number of the selected
one to the list as it is. The list takes a number behind its end for that of its last row. So the highlighted
row is that of the selected suggestion as long as that is drawn, and the last row drawn otherwise.

* **`list_drawn`** — the list of the suggestions is drawn where nothing else is.
* **`cell_listArea`** — what each cell of the list shows.
* **`highlights_draw`** — the one highlighted row and the command in it.
* **`highlighted_after`** — which command is highlighted after any keys, and which one Enter hands in.
-/

namespace Lookout

/-- The first rows of a rectangle lie in it. -/
theorem Rect.within_splitTop_fst (r : Rect) (n : Nat) : (r.splitTop n).1.Within r := by
  intro x y
  simp only [Has, splitTop, right, bottom]
  omega

/-- The rows below the first ones of a rectangle lie in it. -/
theorem Rect.within_splitTop_snd (r : Rect) (n : Nat) : (r.splitTop n).2.Within r := by
  intro x y
  simp only [Has, splitTop, right, bottom]
  omega

namespace Style

/-- The style leaves the ground open and is not bold. -/
def IsQuiet (s : Style) : Prop := s.ground = none ∧ s.bold = false

theorem IsQuiet.above {s below : Style} (h : s.IsQuiet) (hbelow : below.IsQuiet) : (s.above below).IsQuiet := by
  obtain ⟨hground, hbold⟩ := h
  obtain ⟨hground', hbold'⟩ := hbelow
  constructor
  · rw [Style.above, hground, hground', Option.none_or]
  · rw [Style.above, hbold, hbold', Bool.or_false]

end Style

/-- A line of quiet spans leaves quiet cells. -/
theorem ListBox.quiet_lineCell {c : Canvas} {r : Rect} {x y : Nat} {row : List Span}
    (quiet : ∀ s ∈ row, s.style.IsQuiet) (hx : x < c.width) (hy : y < c.height) :
    (lineCell c r y row x).style.IsQuiet := by
  refine (Canvas.draws_line y r.x r.right 0 row).keeps (P := fun cell => cell.style.IsQuiet) hx hy ?_ ?_
  · rw [Canvas.cell_blank]
    exact ⟨rfl, rfl⟩
  · rintro s ⟨⟨-, hchange⟩, -⟩ - cell hcell
    rcases hchange with hchange | ⟨g, hg, hchange | hchange⟩
    · rw [hchange]
      exact ⟨rfl, rfl⟩
    all_goals
      obtain ⟨span, hspan, hstyle⟩ := List.mem_map.1 hg
      rw [hchange]
      exact (hstyle ▸ quiet span hspan).above hcell

namespace Palette

/-- Where the palette is drawn on a page. -/
def box (p : Palette) (page : Rect) : Rect :=
  let height := min (3 + min p.suggestions.length roomForSuggestions) page.height
  Rect.intersect ⟨page.x + 1, page.y + 1, Overlay.width page.width, height⟩ page

/-- Where the suggestions are drawn on a page: inside the border, below the text typed. -/
def listArea (p : Palette) (page : Rect) : Rect := ((p.box page).inner.splitTop 1).2

/-- On a canvas that is as large as `c`, row `i` of the list has the style of the highlight and no other row
has, and what stands in it is the row of a command. -/
def Highlights (p : Palette) (c drawn : Canvas) (page : Rect) (i : Nat) (command : Command) : Prop :=
  let area := p.listArea page
  ∀ x y, area.Has x y → ((drawn.cell x y).style = p.listBox.highlight ↔ y = area.y + i) ∧
    (y = area.y + i → (drawn.cell x y).symbol = (ListBox.lineCell c area y (row command) x).symbol)

variable {p : Palette} {c drawn : Canvas} {page : Rect}

/-! ## The list -/

/-- The list is never higher than it has rows. -/
theorem height_listArea_le (p : Palette) (page : Rect) :
    (p.listArea page).height ≤ min p.suggestions.length roomForSuggestions := by
  simp only [listArea, box, Rect.intersect, Rect.inner, Rect.splitTop, Rect.bottom]
  omega

theorem listArea_within (p : Palette) (page : Rect) : (p.listArea page).Within page := by
  intro x y hhas
  have hinner := Rect.within_splitTop_snd (p.box page).inner 1 x y hhas
  exact Rect.within_intersect_right _ _ x y (Rect.within_inner (p.box page) x y hinner)

theorem length_rows (p : Palette) :
    p.listBox.rows.length = min p.suggestions.length roomForSuggestions := by
  rw [listBox, List.length_map, List.length_take, Nat.min_comm]

theorem rows_getElem? {i : Nat} {command : Command} (h : p.suggestions[i]? = some command)
    (room : i < roomForSuggestions) : p.listBox.rows[i]? = some (row command) := by
  rw [listBox, List.getElem?_map, List.getElem?_take_of_lt room, h]
  rfl

theorem quiet_row (command : Command) : ∀ s ∈ row command, s.style.IsQuiet := by
  intro s hs
  rcases List.mem_cons.1 hs with rfl | hs
  · exact ⟨rfl, rfl⟩
  · rw [List.mem_singleton.1 hs]
    exact ⟨rfl, rfl⟩

/-- On a page that an overlay fits on, the palette is drawn. -/
theorem exists_draw (p : Palette) (c : Canvas) (fits : Overlay.Fits page.width) :
    ∃ drawn, p.draw c page = .ok drawn := by
  unfold draw
  split
  · simp only [Overlay.draw, Overlay.area?, if_pos fits]
    exact ⟨_, rfl⟩
  · exact ⟨c, rfl⟩

/-- The list of the suggestions is drawn where nothing else is. -/
theorem list_drawn (isOpen : p.isOpen = true) (suggested : p.suggestions ≠ [])
    (hdraw : p.draw c page = .ok drawn) :
    ∃ ready : Canvas, (ready.width = c.width ∧ ready.height = c.height) ∧
      (∀ x y, x < c.width → y < c.height → (p.listArea page).Has x y → ready.cell x y = .blank) ∧
      drawn = (p.listBox.draw ready (p.listArea page) ⟨some p.selected, 0⟩).2 := by
  rw [draw, if_pos isOpen] at hdraw
  dsimp only at hdraw
  match hoverlay : Overlay.draw c page (min (3 + min p.suggestions.length roomForSuggestions) page.height)
      " Command " with
  | .error _ =>
    rw [hoverlay] at hdraw
    cases hdraw
  | .ok (inner, c') =>
    obtain ⟨⟨r, harea, rfl⟩, hwidth, hheight, hblank⟩ := Canvas.cell_overlay hoverlay
    rw [hoverlay] at hdraw
    have hr : (r.inner.splitTop 1).2 = p.listArea page := by
      unfold Overlay.area? at harea
      split at harea
      · rw [← Except.ok.inj harea]
        rfl
      · cases harea
    have hinput := Canvas.draws_lines (r.inner.splitTop 1).1 [p.editor.line ":"]
    refine ⟨c'.drawLines (r.inner.splitTop 1).1 [p.editor.line ":"],
      ⟨(hinput.width c').trans hwidth, (hinput.height c').trans hheight⟩, fun x y hx hy hhas => ?_, ?_⟩
    · rw [← hr] at hhas
      refine (hinput.cell_of_missed (by rwa [hwidth]) (by rwa [hheight]) fun s hs hmeets => ?_).trans
        (hblank x y hx hy (Rect.within_splitTop_snd _ 1 x y hhas))
      -- The text typed stands in the row above the list.
      have hrow := hmeets.2
      have habove := hs.2.2.2
      have hbelow := hhas.2.2.1
      simp only [Rect.splitTop, Rect.bottom] at habove hbelow
      omega
    · have hsome : p.suggestions.isEmpty = false := List.isEmpty_eq_false_iff.2 suggested
      rw [← hr, ← Except.ok.inj hdraw, hsome]
      rfl

/-- What each cell of the list shows: the row of its suggestion, under the highlight in the row of the
selected one, or in the last row if that is not drawn. -/
theorem cell_listArea (isOpen : p.isOpen = true) (suggested : p.suggestions ≠ [])
    (within : page.Within c.area) (hdraw : p.draw c page = .ok drawn)
    (room : min p.suggestions.length roomForSuggestions ≤ (p.listArea page).height) {i : Nat}
    {command : Command} (hcommand : p.suggestions[i]? = some command) (hi : i < roomForSuggestions) {x : Nat}
    (left : (p.listArea page).x ≤ x) (right : x < (p.listArea page).right) :
    drawn.cell x ((p.listArea page).y + i) =
      if i = min p.selected (p.listBox.rows.length - 1) then
        (ListBox.lineCell c (p.listArea page) ((p.listArea page).y + i) (row command) x).tint p.listBox.highlight
      else ListBox.lineCell c (p.listArea page) ((p.listArea page).y + i) (row command) x := by
  obtain ⟨ready, ⟨hwidth, hheight⟩, hblank, rfl⟩ := list_drawn isOpen suggested hdraw
  have hfull : (p.listArea page).height = p.listBox.rows.length := by
    rw [length_rows]
    exact Nat.le_antisymm (p.height_listArea_le page) room
  have hwithin : (p.listArea page).Within ready.area := by
    intro x y hhas
    rw [show ready.area = c.area by rw [Canvas.area, Canvas.area, hwidth, hheight]]
    exact within x y (p.listArea_within page x y hhas)
  have hempty (x y : Nat) (hhas : (p.listArea page).Has x y) : ready.cell x y = .blank := by
    obtain ⟨-, hx, -, hy⟩ := within x y (p.listArea_within page x y hhas)
    simp only [Canvas.area, Rect.right, Rect.bottom, Nat.zero_add] at hx hy
    exact hblank x y hx hy hhas
  rw [ListBox.cell_draw_of_full rfl hwithin hempty hfull p.selected (rows_getElem? hcommand hi) left right]
  simp only [ListBox.lineCell, hwidth, hheight]

/-! ## The highlight -/

theorem symbol_tint (cell : Cell) (s : Style) : (cell.tint s).symbol = cell.symbol := rfl

/-- The highlight covers the style of a row. -/
theorem tint_highlight {cell : Cell} (quiet : cell.style.IsQuiet) :
    (cell.tint p.listBox.highlight).style = p.listBox.highlight := by
  obtain ⟨-, hbold⟩ := quiet
  simp only [Cell.tint, listBox, Style.above, Style.colored, Style.onGround, Option.some_or, hbold,
    Bool.or_false]

/-- A row without the highlight differs from one with it. -/
theorem ne_highlight {s : Style} (quiet : s.IsQuiet) : s ≠ p.listBox.highlight := by
  rintro rfl
  exact Option.some_ne_none _ quiet.1

/-- The highlighted row is that of the selected suggestion, or the last one drawn if that is not drawn. -/
theorem highlights_draw (isOpen : p.isOpen = true) (selects : p.selected < p.suggestions.length)
    (within : page.Within c.area) (hdraw : p.draw c page = .ok drawn)
    (room : min p.suggestions.length roomForSuggestions ≤ (p.listArea page).height) :
    ∃ shown, p.suggestions[min p.selected (roomForSuggestions - 1)]? = some shown ∧
      p.Highlights c drawn page (min p.selected (roomForSuggestions - 1)) shown := by
  have hlast : min p.selected (p.listBox.rows.length - 1) = min p.selected (roomForSuggestions - 1) := by
    rw [length_rows, roomForSuggestions]
    omega
  have hshown : min p.selected (roomForSuggestions - 1) < p.suggestions.length := by omega
  refine ⟨_, List.getElem?_eq_getElem hshown, fun x y hhas => ?_⟩
  have hcell (i : Nat) (hi : i < p.suggestions.length) (hroom : i < roomForSuggestions) :=
    cell_listArea isOpen (List.length_pos_iff.1 (Nat.zero_lt_of_lt selects)) within hdraw room
      (List.getElem?_eq_getElem hi) hroom hhas.1 hhas.2.1
  obtain ⟨-, hx, -, hy⟩ := within x y (p.listArea_within page x y hhas)
  simp only [Canvas.area, Rect.right, Rect.bottom, Nat.zero_add] at hx hy
  have hquiet (command : Command) :=
    ListBox.quiet_lineCell (r := p.listArea page) (quiet_row command) hx hy
  obtain ⟨i, rfl⟩ := Nat.exists_eq_add_of_le hhas.2.2.1
  have hi : i < min p.suggestions.length roomForSuggestions := by
    have hbottom := hhas.2.2.2
    have hheight := p.height_listArea_le page
    rw [Rect.bottom] at hbottom
    omega
  have hcell := hcell i (by omega) (by omega)
  rw [hlast] at hcell
  rw [Nat.add_left_cancel_iff]
  by_cases here : i = min p.selected (roomForSuggestions - 1)
  · rw [if_pos here] at hcell
    subst here
    refine ⟨iff_of_true (by rw [hcell]; exact tint_highlight (hquiet _)) rfl, fun _ => ?_⟩
    rw [hcell, symbol_tint]
  · rw [if_neg here] at hcell
    exact ⟨iff_of_false (by rw [hcell]; exact ne_highlight (hquiet _)) here, fun h => absurd h here⟩

/-- Which command is highlighted after any keys, and which one Enter hands in: one of the suggestions that
are drawn is the only one highlighted. It is the selected one, whose name Enter hands in, if that is among
the suggestions that are drawn, and the last one drawn otherwise. -/
theorem highlighted_after (commands : List Command) (keys : List Key) (c drawn : Canvas) (page : Rect)
    (isOpen : ((new commands).after keys).isOpen = true)
    (suggested : ((new commands).after keys).suggestions ≠ []) (within : page.Within c.area)
    (hdraw : ((new commands).after keys).draw c page = .ok drawn)
    (room : min ((new commands).after keys).suggestions.length roomForSuggestions ≤
      (((new commands).after keys).listArea page).height) :
    let p := (new commands).after keys
    ∃ shown chosen, p.suggestions[min p.selected (roomForSuggestions - 1)]? = some shown ∧
      p.Highlights c drawn page (min p.selected (roomForSuggestions - 1)) shown ∧
      p.suggestions[p.selected]? = some chosen ∧
      (∀ enter : Key, enter.code = .enter → (p.press enter).2 = .submitted chosen.name) ∧
      (p.selected < roomForSuggestions → shown = chosen) := by
  intro p
  have hselects : p.selected < p.suggestions.length := by
    rcases (selects_new commands).after keys with h | ⟨hnone, -⟩
    · exact h
    · exact absurd hnone suggested
  obtain ⟨shown, hshown, hhighlights⟩ := highlights_draw isOpen hselects within hdraw room
  refine ⟨shown, p.suggestions[p.selected], hshown, hhighlights, List.getElem?_eq_getElem hselects, ?_, ?_⟩
  · intro enter henter
    rw [press_submit isOpen henter, choice, List.getElem?_eq_getElem hselects]
  · intro hroom
    have hsame : min p.selected (roomForSuggestions - 1) = p.selected := by omega
    rw [hsame, List.getElem?_eq_getElem hselects] at hshown
    exact (Option.some.inj hshown).symm

/-- The commands of a program with five configured pages: one more than are drawn. -/
def nineCommands : List Command :=
  Command.builtin ++ ["a", "b", "c", "d", "e"].map (fun s => ⟨"page" ++ s, [], "Title " ++ s⟩) ++ [Command.quit]

/-- The palette of the nine commands after a colon and Tab. -/
def secondOfNine : Palette := (new nineCommands).after [.plain ':', { code := .tab }]

/-- The second command is highlighted, and Enter hands it in. -/
theorem avito_highlighted : ∃ drawn shown,
    secondOfNine.draw (.blank 60 14) ⟨0, 0, 60, 14⟩ = .ok drawn ∧ shown.name = "avito" ∧
      secondOfNine.Highlights (.blank 60 14) drawn ⟨0, 0, 60, 14⟩ 1 shown ∧
      (secondOfNine.press { code := .enter }).2 = .submitted "avito" := by
  have hfits : Overlay.Fits (Rect.mk 0 0 60 14).width := by decide
  obtain ⟨drawn, hdraw⟩ := exists_draw secondOfNine (.blank 60 14) hfits
  have hselected : secondOfNine.selected = 1 := by decide +kernel
  have hsecond : secondOfNine.suggestions[1]?.map (·.name) = some "avito" := by decide +kernel
  obtain ⟨shown, chosen, -, hhighlights, hchosen, henter, hsame⟩ :=
    highlighted_after nineCommands [.plain ':', { code := .tab }] (.blank 60 14) drawn ⟨0, 0, 60, 14⟩
      (by decide +kernel) (by decide +kernel) (fun _ _ h => h) hdraw (by decide +kernel)
  have hname : chosen.name = "avito" := by
    rw [show (new nineCommands).after _ = secondOfNine from rfl, hselected] at hchosen
    simpa [hchosen] using hsecond
  have hshown : shown = chosen := hsame (by decide +kernel)
  refine ⟨drawn, shown, hdraw, by rw [hshown, hname], ?_, ?_⟩
  · rwa [show (new nineCommands).after _ = secondOfNine from rfl, hselected] at hhighlights
  · rw [← hname]
    exact henter { code := .enter } rfl

/-- The palette of the nine commands after a colon and the key that goes back to the last one. -/
def lastOfNine : Palette := (new nineCommands).after [.plain ':', { code := .backTab }]

/-- Of nine commands the last one may be selected, but the eighth is highlighted. -/
theorem eighth_for_ninth : ¬ ∀ (commands : List Command) (keys : List Key) (c drawn : Canvas) (page : Rect),
    let p := (new commands).after keys
    p.isOpen = true → p.suggestions ≠ [] → page.Within c.area → p.draw c page = .ok drawn →
      min p.suggestions.length roomForSuggestions ≤ (p.listArea page).height →
      ∃ i, ∃ chosen ∈ p.suggestions, p.Highlights c drawn page i chosen ∧
        (p.press { code := .enter }).2 = .submitted chosen.name := by
  intro claim
  have hfits : Overlay.Fits (Rect.mk 0 0 60 14).width := by decide
  obtain ⟨drawn, hdraw⟩ := exists_draw lastOfNine (.blank 60 14) hfits
  have hselected : lastOfNine.selected = 8 := by decide +kernel
  have hopen : lastOfNine.isOpen = true := by decide +kernel
  have hroom : min lastOfNine.suggestions.length roomForSuggestions ≤
      (lastOfNine.listArea ⟨0, 0, 60, 14⟩).height := by decide +kernel
  obtain ⟨i, chosen, hchosen, hhighlights, henter⟩ := claim nineCommands [.plain ':', { code := .backTab }]
    (.blank 60 14) drawn ⟨0, 0, 60, 14⟩ hopen (by decide +kernel) (fun _ _ h => h) hdraw hroom
  obtain ⟨shown, hshown, hhighlighted⟩ := highlights_draw hopen (by decide +kernel) (fun _ _ h => h) hdraw hroom
  -- The two rows differ in the first letter of the name.
  have hquit : ∀ chosen ∈ lastOfNine.suggestions,
      (lastOfNine.press { code := .enter }).2 = .submitted chosen.name →
        (ListBox.lineCell (.blank 60 14) (lastOfNine.listArea ⟨0, 0, 60, 14⟩) 10 (row chosen) 2).symbol =
          ['q'] := by decide +kernel
  have hpage : ∀ shown ∈ lastOfNine.suggestions[7]?,
      (ListBox.lineCell (.blank 60 14) (lastOfNine.listArea ⟨0, 0, 60, 14⟩) 10 (row shown) 2).symbol =
        ['p'] := by decide +kernel
  have harea : lastOfNine.listArea ⟨0, 0, 60, 14⟩ = ⟨2, 3, 34, 8⟩ := by decide +kernel
  have hhas : (lastOfNine.listArea ⟨0, 0, 60, 14⟩).Has 2 10 := by rw [harea]; decide
  rw [hselected] at hshown hhighlighted
  obtain ⟨hstyle, htext⟩ := hhighlighted 2 10 hhas
  obtain ⟨hstyle', htext'⟩ := hhighlights 2 10 hhas
  have hrow : 10 = (lastOfNine.listArea ⟨0, 0, 60, 14⟩).y + 7 := by rw [harea]
  have hletters : ['p'] = ['q'] := calc
    ['p'] = _ := (hpage shown hshown).symm
    _ = (drawn.cell 2 10).symbol := (htext hrow).symm
    _ = _ := htext' (hstyle'.1 (hstyle.2 hrow))
    _ = ['q'] := hquit chosen hchosen henter
  exact absurd hletters (by decide)

end Palette

end Lookout
