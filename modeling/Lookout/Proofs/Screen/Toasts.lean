import Lookout.App.Draw
import Lookout.Proofs.Input.Bytes
import Lookout.Proofs.Screen.Strokes
import Mathlib.Data.List.Chain
import Mathlib.Order.Bounds.Basic

/-!
# Where toasts are drawn

As many of the newest notifications are drawn as there is room for, at most four. Their boxes stand one above
the other on the lower edge of the page, the newest at the bottom, and each is drawn as if it were alone. The
steps in which their places are found stay within the coordinates of a screen.

* **`le_length_boxes_iff`** — how many boxes are stacked.
* **`stacked_boxes`** — how they stand.
* **`le_length_placed_iff`** — how many toasts a page has room for.
* **`placedChecked_eq`** — no step leaves the coordinates.
* **`cell_drawOne`** — what a toast shows in its box.
* **`cell_drawn`** — what a cell in the rows of a toast shows.
* **`toasts_stacked`** — all of that, on every screen.
-/

namespace Lookout

open Checked

namespace Toast

/-! ## Stacks of boxes -/

/-- The boxes of notifications above the row `bottom`, each above the one before. -/
def boxes (x top columns bottom : Nat) (notes : List Notification) : List (Notification × Rect) :=
  notes.zip (stack x top columns bottom (notes.map fun n => height n.message columns))

/-- Boxes of a width that stand one above the other, the first on the row `bottom`, none above the row `top`:
how each is as high as its message asks for, and where it stands. -/
structure Stacked (x top columns bottom : Nat) (toasts : List (Notification × Rect)) : Prop where
  box : ∀ t ∈ toasts, t.2.x = x ∧ t.2.width = columns ∧ t.2.height = height t.1.message columns
  inside : ∀ t ∈ toasts, top ≤ t.2.y ∧ t.2.bottom ≤ bottom
  first : ∀ t ∈ toasts.head?, t.2.bottom = bottom
  adjacent : toasts.IsChain fun newer older => older.2.bottom = newer.2.y
  apart : toasts.Pairwise fun newer older => older.2.bottom ≤ newer.2.y

variable {x top columns bottom : Nat} {n : Notification} {notes : List Notification}

theorem boxes_cons (x top columns bottom : Nat) (n : Notification) (notes : List Notification) :
    boxes x top columns bottom (n :: notes) =
      if bottom < top + height n.message columns then []
      else
        (n, ⟨x, bottom - height n.message columns, columns, height n.message columns⟩) ::
          boxes x top columns (bottom - height n.message columns) notes := by
  rw [boxes, List.map_cons, stack]
  split
  · rfl
  · rfl

/-- The boxes are those of the first notifications. -/
theorem map_fst_boxes (x top columns bottom : Nat) (notes : List Notification) :
    (boxes x top columns bottom notes).map Prod.fst =
      notes.take (boxes x top columns bottom notes).length := by
  induction notes generalizing bottom with
  | nil => rfl
  | cons n notes ih =>
    rw [boxes_cons]
    split
    · rfl
    · rw [List.map_cons, List.length_cons, List.take_succ_cons, ih]

/-- A number of boxes is stacked if their heights together are no more than there is room. -/
theorem le_length_boxes_iff (room : top ≤ bottom) {k : Nat} :
    k ≤ (boxes x top columns bottom notes).length ↔
      k ≤ notes.length ∧ top + ((notes.take k).map fun n => height n.message columns).sum ≤ bottom := by
  induction notes generalizing bottom k with
  | nil =>
    have hnone : (boxes x top columns bottom []).length = 0 := rfl
    rw [hnone, List.length_nil, List.take_nil, List.map_nil, List.sum_nil]
    omega
  | cons n notes ih =>
    cases k with
    | zero => simpa using room
    | succ k =>
      rw [boxes_cons, List.take_succ_cons, List.map_cons, List.sum_cons, List.length_cons]
      split
      · next hfull =>
        rw [List.length_nil]
        omega
      · next hroom =>
        have habove : top ≤ bottom - height n.message columns := by omega
        rw [List.length_cons, Nat.succ_le_succ_iff, ih habove]
        omega

theorem stacked_boxes (x top columns bottom : Nat) (notes : List Notification) :
    Stacked x top columns bottom (boxes x top columns bottom notes) := by
  have hempty (bottom : Nat) : Stacked x top columns bottom [] :=
    ⟨List.forall_mem_nil _, List.forall_mem_nil _, (fun _ h => nomatch h), .nil, .nil⟩
  induction notes generalizing bottom with
  | nil => exact hempty bottom
  | cons n notes ih =>
    rw [boxes_cons]
    split
    · exact hempty bottom
    · next hroom =>
      obtain ⟨hbox, hinside, hfirst, hadjacent, hapart⟩ := ih (bottom - height n.message columns)
      have hbottom : bottom - height n.message columns + height n.message columns = bottom := by omega
      refine ⟨?_, ?_, ?_, ?_, ?_⟩
      · exact List.forall_mem_cons.2 ⟨⟨rfl, rfl, rfl⟩, hbox⟩
      · refine List.forall_mem_cons.2 ⟨⟨by dsimp only; omega, Nat.le_of_eq hbottom⟩, fun t ht => ?_⟩
        obtain ⟨htop, hlow⟩ := hinside t ht
        exact ⟨htop, Nat.le_trans hlow (Nat.sub_le _ _)⟩
      · intro t ht
        obtain rfl := Option.some.inj ht
        exact hbottom
      · rw [List.isChain_cons]
        exact ⟨hfirst, hadjacent⟩
      · exact List.pairwise_cons.2 ⟨fun t ht => (hinside t ht).2, hapart⟩

/-! ## On a page -/

variable {page : Rect}

/-- The toasts on a page that has room for them are the boxes of the newest notifications. -/
theorem placed_eq (q : NotificationQueue) (room : narrowest ≤ page.width) :
    placed q page = boxes (column page) page.y (width page) page.bottom (newest q) := by
  have hwidth : ¬ width page < narrowest := by
    simp only [width, widest, narrowest] at room ⊢
    omega
  rw [placed, if_neg hwidth]
  rfl

/-- The rows that the newest `k` notifications take on a page, one above the other. -/
def rowsFor (q : NotificationQueue) (page : Rect) (k : Nat) : Nat :=
  ((q.items.reverse.take k).map fun n => height n.message (width page)).sum

/-- A number of toasts is drawn if it is no more than four, there are as many notifications, and the page has
room for their boxes. -/
theorem le_length_placed_iff (q : NotificationQueue) (room : narrowest ≤ page.width) {k : Nat} :
    k ≤ (placed q page).length ↔ k ≤ most ∧ k ≤ q.items.length ∧ rowsFor q page k ≤ page.height := by
  have hends : page.y ≤ page.bottom := Nat.le_add_right _ _
  rw [placed_eq q room, le_length_boxes_iff hends, newest, List.length_take, List.length_reverse, Nat.le_min,
    and_assoc]
  refine and_congr_right fun hmost => and_congr_right fun _ => ?_
  rw [List.take_take, Nat.min_eq_left hmost, rowsFor, Rect.bottom]
  exact Nat.add_le_add_iff_left

/-- The toasts are those of the newest notifications. -/
theorem map_fst_placed (q : NotificationQueue) (room : narrowest ≤ page.width) :
    (placed q page).map Prod.fst = q.items.reverse.take (placed q page).length := by
  have hmost := ((le_length_placed_iff q room).1 (Nat.le_refl _)).1
  have hnewest : (placed q page).map Prod.fst = (newest q).take (placed q page).length := by
    rw [placed_eq q room]
    exact map_fst_boxes _ _ _ _ _
  rw [hnewest, newest, List.take_take, Nat.min_eq_left hmost]

theorem stacked_placed (q : NotificationQueue) (room : narrowest ≤ page.width) :
    Stacked (column page) page.y (width page) page.bottom (placed q page) :=
  placed_eq q room ▸ stacked_boxes _ _ _ _ _

/-- From side to side, the toasts lie on the page. -/
theorem column_inside (page : Rect) :
    page.x ≤ column page ∧ column page + width page ≤ page.right := by
  simp only [column, width, Rect.right]
  omega

/-- On a screen, the page begins in the first column and in one of the first two rows, and is as wide as the
screen. -/
theorem layout_page (columns rows : Nat) :
    (App.layout ⟨0, 0, columns, rows⟩).2.1.x = 0 ∧ (App.layout ⟨0, 0, columns, rows⟩).2.1.width = columns ∧
      (App.layout ⟨0, 0, columns, rows⟩).2.1.y ≤ 1 ∧ (App.layout ⟨0, 0, columns, rows⟩).2.1.bottom ≤ rows := by
  simp only [App.layout, Rect.splitTop, Rect.bottom, true_and]
  omega

/-! ## Steps that can fail -/

/-- The rows of the box for a message, in steps that can fail. -/
def heightChecked (message : String) (width : Nat) : Except Crash Nat :=
  let room := max (width - 2) 1
  plusCoordinate (min (max ((message.length + room - 1) / room) 1) 3) 2

/-- The boxes of notifications above the row `bottom`, in steps that can fail. -/
def boxesChecked (x top width : Nat) : Nat → List Notification → Except Crash (List (Notification × Rect))
  | _, [] => .ok []
  | bottom, n :: notes => do
    let height ← heightChecked n.message width
    let needed ← plusCoordinate top height
    if bottom < needed then .ok []
    else
      let y ← minus bottom height
      let above ← boxesChecked x top width y notes
      .ok ((n, ⟨x, y, width, height⟩) :: above)

/-- The notifications that are drawn on a page with the places of their boxes, in steps that can fail. -/
def placedChecked (q : NotificationQueue) (page : Rect) : Except Crash (List (Notification × Rect)) :=
  if width page < narrowest then .ok []
  else do
    let right ← plusCoordinate page.x page.width
    let margin ← plusCoordinate (width page) 1
    let bottom ← plusCoordinate page.y page.height
    boxesChecked (max (right - margin) page.x) page.y (width page) bottom (newest q)

theorem heightChecked_eq (message : String) (width : Nat) :
    heightChecked message width = .ok (height message width) := by
  refine plusCoordinate_eq ?_
  simp only [coordinateValues]
  omega

theorem boxesChecked_eq (room : top + 5 < coordinateValues) :
    boxesChecked x top columns bottom notes = .ok (boxes x top columns bottom notes) := by
  induction notes generalizing bottom with
  | nil => rfl
  | cons n notes ih =>
    have hheight := (height_le n.message columns).2
    rw [boxesChecked, heightChecked_eq, ok_bind, plusCoordinate_eq (by omega), ok_bind, boxes_cons]
    split
    · rfl
    · rw [minus_eq (by omega), ok_bind, ih, ok_bind]

/-- No step leaves the coordinates on a page whose ends are coordinates, if it does not begin in the last five
rows of them. -/
theorem placedChecked_eq (q : NotificationQueue) (right : page.right < coordinateValues)
    (bottom : page.bottom < coordinateValues) (top : page.y + 5 < coordinateValues) :
    placedChecked q page = .ok (placed q page) := by
  unfold placedChecked
  split
  · next hnarrow => rw [placed, if_pos hnarrow]
  · next hroom =>
    have hwidth : width page + 1 < coordinateValues := by
      simp only [width, widest, coordinateValues]
      omega
    have hplaced : narrowest ≤ page.width := by
      simp only [width, widest, narrowest] at hroom ⊢
      omega
    rw [plusCoordinate_eq right, ok_bind, plusCoordinate_eq hwidth, ok_bind, plusCoordinate_eq bottom, ok_bind,
      boxesChecked_eq top, placed_eq q hplaced]
    rfl

/-! ## Drawing -/

/-- The rows of a rectangle have a stroke. -/
def InRows (r : Rect) (s : Stroke) : Prop := r.y ≤ s.y ∧ s.y < r.bottom

/-- A text is drawn in the rows of its rectangle, from its left edge on. -/
theorem draws_text (r : Rect) (text : String) :
    Canvas.Draws (fun s => (r.y ≤ s.y ∧ s.y < r.bottom) ∧ r.x ≤ s.x) fun c => c.drawText r text :=
  .ite .nothing ((Canvas.draws_rows r _).mono fun _ hs => ⟨hs.1, hs.2.1⟩)

/-- A toast is drawn in its own rows. -/
theorem draws_toast (n : Notification) {r : Rect} (zone : Time.Zone) (filled : 0 < r.height) :
    Canvas.Draws (InRows r) fun c => drawOne c n r zone := by
  have hclear : Canvas.Draws (InRows r) fun c => c.clear r := .fill fun _ _ hhas => hhas.2.2
  have hpanel : Canvas.Draws (InRows r) fun c => (frame n zone).draw c r :=
    (Canvas.draws_panel _ r).mono fun _ hs => hs.1.2.2
  have htext : Canvas.Draws (InRows r) fun c => c.drawText r.inner n.message := by
    refine (draws_text r.inner n.message).mono fun s hs => ?_
    have hrows := hs.1
    simp only [InRows, Rect.inner, Rect.bottom] at hrows ⊢
    omega
  exact (hclear.comp hpanel).comp htext

/-- In its box, a toast shows its border with the title and its message, and nothing of what was there. The
upper, the lower and the left edge of the box show the border alone. -/
theorem cell_drawOne (n : Notification) (zone : Time.Zone) {c : Canvas} {r : Rect} {x y : Nat}
    (hx : x < c.width) (hy : y < c.height) (inside : r.Has x y) :
    let empty := Canvas.blank c.width c.height
    (drawOne c n r zone).cell x y =
      (((frame n zone).draw empty r).drawText r.inner n.message).cell x y ∧
    (y = r.y ∨ y + 1 = r.bottom ∨ x = r.x →
      (drawOne c n r zone).cell x y = ((frame n zone).draw empty r).cell x y) := by
  intro empty
  have hpanel := Canvas.draws_panel (frame n zone) r
  have htext := draws_text r.inner n.message
  have hclear : (c.clear r).width = c.width ∧ (c.clear r).height = c.height := by
    have hdraws : Canvas.Draws (fun _ => True) fun c => c.clear r := .fill fun _ _ _ => trivial
    exact ⟨hdraws.width c, hdraws.height c⟩
  have hsame : (c.clear r).cell x y = empty.cell x y := by
    rw [Canvas.cell_clear c hx hy inside, Canvas.cell_blank]
  have hframe : ((frame n zone).draw (c.clear r) r).cell x y = ((frame n zone).draw empty r).cell x y :=
    hpanel.cell_congr (by rwa [hclear.1]) (by rwa [hclear.2]) hx hy hsame
  have hsize : x < ((frame n zone).draw (c.clear r) r).width ∧
      y < ((frame n zone).draw (c.clear r) r).height := by
    rw [hpanel.width, hpanel.height, hclear.1, hclear.2]
    exact ⟨hx, hy⟩
  have hsize' : x < ((frame n zone).draw empty r).width ∧ y < ((frame n zone).draw empty r).height := by
    rw [hpanel.width, hpanel.height]
    exact ⟨hx, hy⟩
  refine ⟨htext.cell_congr hsize.1 hsize.2 hsize'.1 hsize'.2 hframe, fun edge => ?_⟩
  -- No row of the message is on these edges.
  have hmissed : (drawOne c n r zone).cell x y = ((frame n zone).draw (c.clear r) r).cell x y := by
    refine htext.cell_of_missed hsize.1 hsize.2 fun s hs hmeets => ?_
    obtain ⟨⟨htop, hbottom⟩, hleft⟩ := hs
    obtain ⟨rfl, rfl⟩ := hmeets
    simp only [Rect.Has, Rect.inner, Rect.right, Rect.bottom] at inside edge htop hbottom hleft
    omega
  exact hmissed.trans hframe

/-- Toasts with rows of their own are each drawn as if they were alone, and nothing else is changed. -/
theorem cell_drawn {toasts : List (Notification × Rect)} (zone : Time.Zone)
    (filled : ∀ t ∈ toasts, 0 < t.2.height)
    (apart : toasts.Pairwise fun s t => t.2.bottom ≤ s.2.y) {c : Canvas} {x y : Nat} (hx : x < c.width)
    (hy : y < c.height) :
    (∀ t ∈ toasts, t.2.y ≤ y → y < t.2.bottom →
      (toasts.foldl (fun c (n, r) => drawOne c n r zone) c).cell x y = (drawOne c t.1 t.2 zone).cell x y) ∧
    ((∀ t ∈ toasts, ¬ (t.2.y ≤ y ∧ y < t.2.bottom)) →
      (toasts.foldl (fun c (n, r) => drawOne c n r zone) c).cell x y = c.cell x y) := by
  obtain ⟨hone, hnone⟩ := Canvas.Draws.cell_foldl (c := c)
    (f := fun c (t : Notification × Rect) => drawOne c t.1 t.2 zone)
    (R := fun t _ y => t.2.y ≤ y ∧ y < t.2.bottom) (fun t ht => draws_toast t.1 zone (filled t ht))
    (apart.imp fun hst _ y hs ht => by omega) hx hy
  exact ⟨fun t ht htop hbottom => hone t ht ⟨htop, hbottom⟩, hnone⟩

/-! ## The toasts -/

/-- On every screen whose page has at least four columns, for every queue: the toasts are the newest
notifications, as many as fit one above the other but no more than four. They stand on the lower edge of the
page, each directly above the next newer one, and lie on the page without a cell in common; the steps in which
their places are found fail nowhere. In the rows of a toast the picture is the one with that toast alone, and
in all other rows it is left as it was; in the box of a toast its border with its title and its message are
seen, and nothing of what was there. -/
theorem toasts_stacked (q : NotificationQueue) (zone : Time.Zone) {columns rows : Nat}
    (wide : columns < coordinateValues) (high : rows < coordinateValues) :
    let page := (App.layout ⟨0, 0, columns, rows⟩).2.1
    narrowest ≤ page.width →
    let toasts := placed q page
    toasts.map Prod.fst = q.items.reverse.take toasts.length ∧
    IsGreatest {k | k ≤ most ∧ k ≤ q.items.length ∧ rowsFor q page k ≤ page.height} toasts.length ∧
    Stacked (column page) page.y (width page) page.bottom toasts ∧
    (∀ t ∈ toasts, t.2.Within page ∧ t.2.right ≤ page.right) ∧
    toasts.Pairwise (fun s t => ∀ x y, ¬ (s.2.Has x y ∧ t.2.Has x y)) ∧
    placedChecked q page = .ok toasts ∧
    ∀ c : Canvas, c.width = columns → c.height = rows → ∀ x y, x < columns → y < rows →
      (∀ t ∈ toasts, t.2.y ≤ y → y < t.2.bottom →
        (draw c page q zone).cell x y = (drawOne c t.1 t.2 zone).cell x y) ∧
      ((∀ t ∈ toasts, ¬ (t.2.y ≤ y ∧ y < t.2.bottom)) → (draw c page q zone).cell x y = c.cell x y) ∧
      ∀ t ∈ toasts, t.2.Has x y →
        let framed := (frame t.1 zone).draw (.blank columns rows) t.2
        (draw c page q zone).cell x y = (framed.drawText t.2.inner t.1.message).cell x y ∧
        (y = t.2.y ∨ y + 1 = t.2.bottom ∨ x = t.2.x → (draw c page q zone).cell x y = framed.cell x y) := by
  intro page room toasts
  obtain ⟨hleft, hwidth, htop, hbottom⟩ :
      page.x = 0 ∧ page.width = columns ∧ page.y ≤ 1 ∧ page.bottom ≤ rows := layout_page columns rows
  have hcolumn := column_inside page
  have hstacked := stacked_placed q room
  have hfits (k : Nat) := le_length_placed_iff q room (k := k)
  refine ⟨map_fst_placed q room, ⟨(hfits _).1 (Nat.le_refl _), fun k hk => (hfits k).2 hk⟩, hstacked, ?_, ?_,
    ?_, ?_⟩
  · intro t ht
    obtain ⟨hx, hw, -⟩ := hstacked.box t ht
    obtain ⟨hy, hlow⟩ := hstacked.inside t ht
    have hright : t.2.right ≤ page.right := by
      rw [Rect.right, hx, hw]
      exact hcolumn.2
    refine ⟨fun x y hhas => ?_, hright⟩
    obtain ⟨hl, hr, ht, hb⟩ := hhas
    exact ⟨by omega, by omega, by omega, by omega⟩
  · refine hstacked.apart.imp fun {s t} hst x y hboth => ?_
    obtain ⟨⟨-, -, hs, -⟩, -, -, -, ht⟩ := hboth
    omega
  · refine placedChecked_eq q ?_ (Nat.lt_of_le_of_lt hbottom high) ?_
    · rw [Rect.right, hleft, hwidth]
      omega
    · simp only [coordinateValues]
      omega
  · rintro c rfl rfl x y hx hy
    have hfilled : ∀ t ∈ toasts, 0 < t.2.height := by
      intro t ht
      rw [(hstacked.box t ht).2.2]
      exact Nat.lt_of_lt_of_le (by decide) (height_le t.1.message (width page)).1
    obtain ⟨hone, hnone⟩ := cell_drawn zone hfilled hstacked.apart hx hy
    refine ⟨hone, hnone, fun t ht inside => ?_⟩
    have hcell : (draw c page q zone).cell x y = (drawOne c t.1 t.2 zone).cell x y :=
      hone t ht inside.2.2.1 inside.2.2.2
    rw [hcell]
    exact cell_drawOne t.1 zone hx hy inside

/-- Four notifications, of which the second takes two rows. -/
def reports : NotificationQueue :=
  ((((NotificationQueue.new ⟨5000000000⟩).push "Signed in" .info 0 0).push
      "Failed to load hosting-dashboard: timed out after 20s" .error 1 1).push "Reloaded" .success 2 2).push
    "No more pages" .warning 3 3

/-- On a screen of 60 columns and 13 rows, the page has room for the newest three of four toasts. -/
theorem three_reports_stacked :
    let page := (App.layout ⟨0, 0, 60, 13⟩).2.1
    60 < coordinateValues ∧ 13 < coordinateValues ∧ narrowest ≤ page.width ∧
    (placed reports page).map Prod.snd = [⟨11, 9, 48, 3⟩, ⟨11, 6, 48, 3⟩, ⟨11, 2, 48, 4⟩] ∧
    Stacked 11 1 48 12 (placed reports page) ∧
    IsGreatest {k | k ≤ most ∧ k ≤ 4 ∧ rowsFor reports page k ≤ 11} 3 := by
  have hall := @toasts_stacked reports Time.utc 60 13 (by decide) (by decide) (by decide)
  refine ⟨by decide, by decide, by decide, by decide +kernel, hall.2.2.1, ?_⟩
  have hlength : (placed reports (App.layout ⟨0, 0, 60, 13⟩).2.1).length = 3 := by decide +kernel
  exact hlength ▸ hall.2.1

end Toast

end Lookout
