import Lookout.Proofs.App.Opening
import Lookout.Proofs.Screen.Overlays

/-!
# The number of unread messages

The title of a list of chats tells how many messages are unread in the chats that are shown, and tells nothing
if none is. The numbers are added up one by one in 32 bits: a sum that has more ends the program before
anything is drawn, and any other one stands in the upper edge of the picture as it is.

* **`addUnread_eq`** — what adding up one by one gives.
* **`badge_inj`** — the part of the title tells the number.
* **`Table.cell_edge`** — what the upper edge of a table shows.
* **`unread_badge`** — what the title tells, and when.
-/

namespace Lookout

open Checked
open Snapshot (Chat)

/-! ## The upper edge -/

namespace Table

/-- What the title of a table says of its filter. -/
def filterMark (t : Table) : String :=
  if t.filter.query.isEmpty then "" else "[/" ++ String.ofList t.filter.query ++ "] "

theorem heading_eq (t : Table) (heading : String) : t.heading heading = heading ++ t.filterMark := by
  unfold Table.heading filterMark
  split
  · exact (String.append_empty).symm
  · rw [String.append_assoc, String.append_assoc, String.append_assoc]

/-- The canvas on which the panel of a table is drawn: a text in place of the rows is dimmed. -/
def ground (c : Canvas) (r : Rect) : TableView → Canvas
  | .rows _ => c
  | _ => c.tint r (.colored .darkGray)

theorem ground_size (c : Canvas) (r : Rect) (view : TableView) :
    (ground c r view).width = c.width ∧ (ground c r view).height = c.height := by
  have htint : Canvas.Draws (fun _ => True) fun c => c.tint r (.colored .darkGray) :=
    .fill fun _ _ _ => trivial
  cases view with
  | rows => exact ⟨rfl, rfl⟩
  | _ => exact ⟨htint.width c, htint.height c⟩

/-- The picture of a table is that of its panel, with the rows or a text below the upper edge. -/
theorem draws_below (t : Table) (r : Rect) (heading : String) (view : TableView) :
    ∃ inner, Canvas.Draws (fun s => r.inner.y ≤ s.y) inner ∧ ∀ c, (t.draw c r heading view).2 =
      inner ((Panel.centered .blue (t.heading heading)).draw (ground c r view) r) := by
  cases view with
  | placeholder text =>
    exact ⟨_, .ite .nothing ((Canvas.draws_rows r.inner _).mono fun _ hs => hs.1.1), fun _ => rfl⟩
  | remark text =>
    exact ⟨_, (Canvas.draws_lines r.inner (plainLines text)).mono fun _ hs => hs.2.2.1, fun _ => rfl⟩
  | rows rows =>
    have hlist := (listBox rows).draws_list r.inner (t.selection.settle rows.length)
    exact ⟨_, hlist.mono fun _ hs => hs.2.2.1, fun _ => rfl⟩

/-- In its upper edge, a table shows its title. -/
theorem cell_edge (t : Table) (c : Canvas) {r : Rect} (heading : String) (view : TableView)
    (filled : 0 < r.height) {x : Nat} (hx : x < c.width) (hy : r.y < c.height) :
    (t.draw c r heading view).2.cell x r.y =
      ((Panel.centered .blue (t.heading heading)).draw (ground c r view) r).cell x r.y := by
  obtain ⟨inner, hinner, hdraw⟩ := t.draws_below r heading view
  obtain ⟨hwidth, hheight⟩ := ground_size c r view
  have hpanel := Canvas.draws_panel (Panel.centered .blue (t.heading heading)) r
  rw [hdraw]
  refine hinner.cell_of_missed (by rwa [hpanel.width, hwidth]) (by rwa [hpanel.height, hheight])
    fun s hs hmeets => ?_
  have hbelow : r.y < r.inner.y := by
    simp only [Rect.inner, Rect.bottom]
    omega
  have hrow := hmeets.2
  omega

/-- A table leaves the canvas its size. -/
theorem draw_size (t : Table) (c : Canvas) (r : Rect) (heading : String) (view : TableView) :
    (t.draw c r heading view).2.width = c.width ∧ (t.draw c r heading view).2.height = c.height := by
  obtain ⟨inner, hinner, hdraw⟩ := t.draws_below r heading view
  obtain ⟨hwidth, hheight⟩ := ground_size c r view
  have hpanel := Canvas.draws_panel (Panel.centered .blue (t.heading heading)) r
  rw [hdraw, hinner.width, hinner.height, hpanel.width, hpanel.height]
  exact ⟨hwidth, hheight⟩

end Table

/-- A filter that can be drawn leaves the upper edge of its page. -/
theorem Filter.exists_draw (f : Filter) (c : Canvas) {r : Rect} (fits : f.isOpen = true → Overlay.Fits r.width) :
    ∃ d, f.draw c r = .ok d ∧
      ∀ {x : Nat}, x < c.width → r.y < c.height → d.cell x r.y = c.cell x r.y := by
  cases hopen : f.isOpen with
  | true =>
    refine ⟨_, draw_open hopen (fits hopen) c, fun hx hy => ?_⟩
    refine (Canvas.covers_of_draws (f.draws_paint (box r))).outside c hx hy fun hhas => ?_
    have hbelow := hhas.2.2.1
    rw [box, Overlay.box_eq] at hbelow
    exact Nat.not_succ_le_self _ hbelow
  | false =>
    refine ⟨c, ?_, fun _ _ => rfl⟩
    rw [draw, hopen, if_neg Bool.false_ne_true]

namespace ChatListPage

/-! ## Adding up -/

/-- The first number that 32 bits do not hold. -/
def countSize : Nat := 0x100000000

/-- Adds the unread messages of a chat to a sum, which has to fit into 32 bits. -/
def addUnread (sum : Nat) (chat : Chat) : Except Crash Nat :=
  if sum + chat.unreadCount.toNat < countSize then .ok (sum + chat.unreadCount.toNat) else .error .count

theorem unreadSum_eq (chats : List Chat) :
    unreadSum chats = (chats.map fun chat => chat.unreadCount.toNat).sum := by
  induction chats with
  | nil => rfl
  | cons chat rest ih => rw [unreadSum, ih, List.map_cons, List.sum_cons]

/-- To add up one by one gives the sum if that fits, and fails on the way otherwise. -/
theorem addUnread_eq (chats : List Chat) {sum : Nat} (fits : sum < countSize) :
    chats.foldlM addUnread sum =
      if sum + unreadSum chats < countSize then .ok (sum + unreadSum chats) else .error .count := by
  induction chats generalizing sum with
  | nil =>
    rw [unreadSum, Nat.add_zero, if_pos fits]
    rfl
  | cons chat rest ih =>
    rw [List.foldlM_cons, unreadSum, ← Nat.add_assoc]
    by_cases hnext : sum + chat.unreadCount.toNat < countSize
    · rw [addUnread, if_pos hnext, ok_bind, ih hnext]
    · have hsum : ¬ sum + chat.unreadCount.toNat + unreadSum rest < countSize := by omega
      rw [addUnread, if_neg hnext, if_neg hsum]
      rfl

/-! ## The title -/

/-- What the title says of a number of unread messages. -/
def badge (n : Nat) : String := if 0 < n then s!"[{n} unread] " else ""

theorem badge_of_pos {n : Nat} (h : 0 < n) :
    (badge n).toList = '[' :: (Nat.toDigits 10 n ++ " unread] ".toList) := by
  rw [badge, if_pos h]
  simp [String.toList_append, toString]

theorem badge_eq_empty_iff {n : Nat} : badge n = "" ↔ n = 0 := by
  constructor
  · intro hempty
    by_contra hne
    have hlist := badge_of_pos (Nat.pos_of_ne_zero hne)
    rw [hempty] at hlist
    cases hlist
  · rintro rfl
    rfl

/-- From what the title says, the number can be told. -/
theorem badge_inj {n m : Nat} : badge n = badge m ↔ n = m := by
  refine ⟨fun h => ?_, fun h => by rw [h]⟩
  rcases Nat.eq_zero_or_pos n with rfl | hn
  · exact (badge_eq_empty_iff.1 h.symm).symm
  rcases Nat.eq_zero_or_pos m with rfl | hm
  · exact badge_eq_empty_iff.1 h
  have hlists := congrArg String.toList h
  rw [badge_of_pos hn, badge_of_pos hm, List.cons.injEq, List.append_left_inj] at hlists
  have hread := congrArg (Nat.ofDigitChars 10 · 0) hlists.2
  rwa [Nat.ofDigitChars_ten_toDigits, Nat.ofDigitChars_ten_toDigits] at hread

theorem title_eq (p : ChatListPage) (b : Binding) (count unread : Nat) :
    p.table.heading (p.heading b count unread) =
      p.content.heading b (some count) ++ badge unread ++ p.table.filterMark := by
  rw [Table.heading_eq]
  rfl

/-! ## The list -/

/-- The table of a list that shows a number of unread messages. -/
def drawTable (p : ChatListPage) (b : Binding) (c : Canvas) (r : Rect) (unread : Nat) : Table × Canvas :=
  p.table.draw c r (p.heading b p.visibleChats.length unread)
    (p.table.view (p.content.placeholder? b) "chats" (p.visibleChats.map row))

/-- If the unread messages have a number, the table is drawn, and then the filter. -/
theorem draw_of_unread {p : ChatListPage} {unread : Nat} (h : unread? p.visibleChats = .ok unread)
    (b : Binding) (c : Canvas) (r : Rect) :
    p.draw b c r = ((p.drawTable b c r unread).1.filter.draw (p.drawTable b c r unread).2 r).map
      fun d => ({ p with table := (p.drawTable b c r unread).1 }, d) := by
  simp only [draw, h]
  rfl

/-- If they have none, the program ends. -/
theorem draw_of_overflow {p : ChatListPage} {fault : DrawFault} (h : unread? p.visibleChats = .error fault)
    (b : Binding) (c : Canvas) (r : Rect) : p.draw b c r = .error fault := by
  simp only [draw, h]
  rfl

/-- The rows are dimmed where a list has none. -/
theorem ground_view {p : ChatListPage} {data : Snapshot.ChatList} (decoded : p.content.loaded? = some data)
    (b : Binding) (c : Canvas) (r : Rect) :
    Table.ground c r (p.table.view (p.content.placeholder? b) "chats" (p.visibleChats.map row)) =
      if p.visibleChats = [] then c.tint r (.colored .darkGray) else c := by
  by_cases empty : p.visibleChats = []
  · have hplaceholder : p.content.placeholder? b = none :=
      (p.content.placeholder?_eq_none_iff b).2 (by rw [decoded]; rfl)
    rw [if_pos empty, hplaceholder, empty]
    rfl
  · rw [if_neg empty, view_of_filled empty b]
    rfl

/-- For every snapshot that can be decoded and every filter: the chats shown are those that the filter lets
pass, and adding up their unread messages one by one gives the sum if that fits into 32 bits, and fails
otherwise. If it fits and an open filter does, the list is drawn, and the title in its upper edge says the sum,
or nothing if that is zero. If it does not fit, drawing the list ends the program. -/
theorem unread_badge (p : ChatListPage) {data : Snapshot.ChatList} (decoded : p.content.loaded? = some data)
    (b : Binding) (c : Canvas) (r : Rect) :
    let shown := data.chats.filter fun chat => p.table.filter.isMatch [chat.title, chat.lastMessage.getD ""]
    let sum := (shown.map fun chat => chat.unreadCount.toNat).sum
    let title := p.content.heading b (some shown.length) ++ badge sum ++ p.table.filterMark
    p.visibleChats = shown ∧
    (badge sum = "" ↔ sum = 0) ∧ (∀ n, badge n = badge sum ↔ n = sum) ∧
    shown.foldlM addUnread 0 = (if sum < countSize then .ok sum else .error .count) ∧
    (sum < countSize → (p.table.filter.isOpen = true → Overlay.Fits r.width) →
      ∃ q d, p.draw b c r = .ok (q, d) ∧
        (0 < r.height → ∀ x, x < c.width → r.y < c.height → d.cell x r.y =
          ((Panel.centered .blue title).draw
            (if shown = [] then c.tint r (.colored .darkGray) else c) r).cell x r.y)) ∧
    (countSize ≤ sum → p.draw b c r = .error .unreadSum) := by
  intro shown sum title
  have hshown : p.visibleChats = shown := by
    rw [visibleChats, decoded]
  have hsum : unreadSum p.visibleChats = sum := by
    rw [unreadSum_eq, hshown]
  have htitle : p.table.heading (p.heading b p.visibleChats.length sum) = title := by
    rw [title_eq, hshown]
  refine ⟨hshown, badge_eq_empty_iff, fun n => badge_inj, ?_, fun fits hopen => ?_, fun full => ?_⟩
  · have hadd := addUnread_eq shown (by decide : 0 < countSize)
    rwa [unreadSum_eq, Nat.zero_add] at hadd
  · have hunread : unread? p.visibleChats = .ok sum := by
      rw [unread?, hsum]
      exact if_pos fits
    let drawn := p.drawTable b c r sum
    have hfilter : drawn.1.filter = p.table.filter := Table.filter_draw ..
    obtain ⟨d, hd, hedge⟩ := drawn.1.filter.exists_draw drawn.2 (r := r) (hfilter ▸ hopen)
    obtain ⟨hwidth, hheight⟩ : drawn.2.width = c.width ∧ drawn.2.height = c.height := Table.draw_size ..
    refine ⟨{ p with table := drawn.1 }, d, ?_, fun filled x hx hy => ?_⟩
    · rw [draw_of_unread hunread, hd]
      rfl
    · rw [hedge (by rwa [hwidth]) (by rwa [hheight])]
      refine (Table.cell_edge _ c _ _ filled hx hy).trans ?_
      rw [htitle, ground_view decoded, hshown]
  · have hunread : unread? p.visibleChats = .error .unreadSum := by
      rw [unread?, hsum]
      exact if_neg (Nat.not_lt.2 full)
    exact draw_of_overflow hunread b c r

/-- The page of some chats with a filter that has been typed in. -/
def listing (chats : List Chat) (query : List Char) : ChatListPage :=
  ⟨default, ⟨0, "Chats", some (.ok ⟨chats⟩)⟩, ⟨.none, ⟨⟨query, query.length⟩, false⟩⟩⟩

/-- A chat without messages. -/
def chat (title : String) (unread : UInt32) : Chat := ⟨title, title, none, unread, none⟩

/-- A binding with a snapshot. -/
def fresh : Binding := .mounted "chats" (some ⟨"chats", .null, 0⟩)

/-- The filter keeps two of three chats: their messages are counted, those of the third are not. -/
theorem two_of_three_counted :
    let p := listing [chat "Anna" 3, chat "Bob" 9, chat "Johanna" 4] "anna".toList
    3 + 4 < countSize ∧ p.visibleChats = [chat "Anna" 3, chat "Johanna" 4] ∧
    ∃ q d, p.draw fresh (.blank 80 24) ⟨0, 1, 80, 22⟩ = .ok (q, d) ∧ ∀ x < 80, d.cell x 1 =
      ((Panel.centered .blue " Chats (2) [7 unread] [/anna] ").draw (.blank 80 24) ⟨0, 1, 80, 22⟩).cell x 1 := by
  intro p
  have hvisible : p.visibleChats = [chat "Anna" 3, chat "Johanna" 4] := by decide +kernel
  have hloaded : p.content.loaded? = some ⟨[chat "Anna" 3, chat "Bob" 9, chat "Johanna" 4]⟩ := rfl
  obtain ⟨hshown, -, -, -, hdrawn, -⟩ := unread_badge p hloaded fresh (.blank 80 24) ⟨0, 1, 80, 22⟩
  rw [← hshown, hvisible] at hdrawn
  obtain ⟨q, d, hdraw, hedge⟩ := hdrawn (by decide) (fun isOpen => absurd isOpen Bool.false_ne_true)
  have htitle : p.content.heading fresh (some 2) ++ badge 7 ++ p.table.filterMark =
      " Chats (2) [7 unread] [/anna] " := by decide +kernel
  refine ⟨by decide, hvisible, q, d, hdraw, fun x hx => ?_⟩
  have hcell := hedge (by decide) x hx (by decide)
  rw [show ([chat "Anna" 3, chat "Johanna" 4].map fun chat => chat.unreadCount.toNat).sum = 7 from rfl,
    show [chat "Anna" 3, chat "Johanna" 4].length = 2 from rfl, htitle] at hcell
  exact hcell

/-- A list of two chats whose messages do not fit into 32 bits is not drawn. -/
theorem unread_overflows : ¬ ∀ (p : ChatListPage) (data : Snapshot.ChatList) (b : Binding) (c : Canvas) (r : Rect),
    p.content.loaded? = some data → p.table.filter.isOpen = false → ∃ q d, p.draw b c r = .ok (q, d) := by
  intro claim
  let p := listing [chat "Anna" 4294967295, chat "Bob" 1] []
  obtain ⟨q, d, hdraw⟩ := claim p _ fresh (.blank 80 24) ⟨0, 1, 80, 22⟩ rfl rfl
  have hunread : unread? p.visibleChats = .error .unreadSum := by rfl
  rw [draw_of_overflow hunread] at hdraw
  cases hdraw

end ChatListPage

end Lookout
