import Lookout.Proofs.App.Navigation
import Lookout.Proofs.App.Typing
import Lookout.Proofs.Screen.Lists

/-!
# Opening chats

Drawing a list of chats settles which of its rows is selected, whatever keys, ticks and snapshots came
before. Until something else happens the list shows the same chats, so that Enter opens the one whose row
is highlighted.

* **`selected_of_draw`** — the row that is selected once a list of chats is drawn.
* **`list_of_levels`** — a list of chats that is open is one of the program's.
* **`enter_opens`** — what Enter does once a list of chats is drawn.
-/

namespace Lookout

/-! ## Tables and pages -/

/-- A closed filter leaves Enter to the page, and the table stays. -/
theorem Table.press_enter {t : Table} (closed : t.filter.isOpen = false) {k : Key} (enter : k.code = .enter) :
    t.press k = (t, .notHandled) := by
  have hfilter : t.filter.press k = (t.filter, .notHandled) := by
    simp [Filter.press, closed, Key.isCharacter, enter]
  simp [press, hfilter, pressRows, enter]

namespace ChatListPage

/-- While the filter is closed, Enter leaves a list of chats as it is. -/
theorem press_enter {p : ChatListPage} (closed : p.table.filter.isOpen = false) {k : Key}
    (enter : k.code = .enter) : p.press k = (p, p.enter) := by
  simp only [press, Table.press_enter closed enter, enter, if_true]

/-- Enter asks for the messages of the chat in the selected row. -/
theorem enter_of_selected {p : ChatListPage} {i : Nat} {chat : Snapshot.Chat} {t : Resource}
    (selected : p.table.selection.index = some i) (shown : p.visibleChats[i]? = some chat)
    (thread : p.resource.threadFor chat.id chat.title = some t) : p.enter = .visit t := by
  simp [enter, selectedThread?, selected, shown, thread]

/-- Enter asks for nothing if no chat is shown. -/
theorem enter_of_empty {p : ChatListPage} (empty : p.visibleChats = []) : p.enter = .none := by
  have hnone : p.selectedThread? = none := by simp [selectedThread?, empty]
  rw [enter, hnone]

/-- The chats that are shown depend on the content and the filter. -/
theorem visibleChats_congr {p q : ChatListPage} (content : q.content = p.content)
    (filter : q.table.filter = p.table.filter) : q.visibleChats = p.visibleChats := by
  rw [visibleChats, content, filter, visibleChats]

/-- A list that shows chats shows their rows. -/
theorem view_of_filled {p : ChatListPage} (filled : p.visibleChats ≠ []) (b : Binding) :
    p.table.view (p.content.placeholder? b) "chats" (p.visibleChats.map row) =
      .rows (p.visibleChats.map row) := by
  have hloaded : p.content.loaded?.isSome := by
    rw [Option.isSome_iff_ne_none]
    intro hnone
    exact filled (by rw [visibleChats, hnone])
  rw [(p.content.placeholder?_eq_none_iff b).2 hloaded]
  simp [Table.view, filled]

/-- Drawing leaves a list the chats that it shows. If there are any, the row is selected that was, or the
last one if there are fewer rows now, or the first one if none was. -/
theorem selected_of_draw {p q : ChatListPage} {b : Binding} {c d : Canvas} {r : Rect}
    (h : p.draw b c r = .ok (q, d)) : q.visibleChats = p.visibleChats ∧
      (p.visibleChats ≠ [] → q.table.selection.index =
        some (min (p.table.selection.index.getD 0) (p.visibleChats.length - 1))) := by
  unfold draw at h
  obtain ⟨unread, -, h⟩ := ok_of_bind h
  obtain ⟨d', -, heq⟩ := ok_of_map h
  cases heq
  refine ⟨visibleChats_congr rfl (Table.filter_draw ..), fun filled => ?_⟩
  have hrows : (Table.listBox (p.visibleChats.map row)).rows ≠ [] := by
    simpa [Table.listBox] using filled
  have hindex := ListBox.index_draw hrows
  simp only [Table.listBox, List.length_map] at hindex
  rw [view_of_filled filled b]
  simp only [Table.listBox, List.length_map, hindex]

end ChatListPage

namespace App

/-! ## Lists that are open -/

/-- A list of chats on top of the stack is one of the program's pages. -/
theorem list_of_levels {c : Config} {purposes : List Purpose} {p : ChatListPage} {rest : List Page}
    (h : Levels c purposes (.chatList p :: rest)) :
    p.resource ∈ Resource.resolve c ∧ p.resource.kind = .chatList := by
  cases h with
  | root page shows =>
    obtain ⟨hkind, rfl⟩ := shows.of_chatList
    exact ⟨page, hkind⟩
  | chat page lists shows thread above =>
    -- The messages of a chat list no chats.
    cases above.of_chatList.1.symm.trans (Resource.isChatOf_of_threadFor thread).kind

namespace Reached

variable {a : App}

theorem onWay (h : Reached a) : ∃ c, OnWay c a := by
  induction h with
  | start config page calendar space storage servers => exact ⟨config, onWay_start config _ page⟩
  | after h e ih =>
    obtain ⟨c, hway⟩ := ih
    exact ⟨c, hway.after e⟩

theorem drawn (h : Reached a) {drawn : App} {width height : Nat} {canvas : Canvas}
    (draws : a.draw width height = .ok (drawn, canvas)) : Reached drawn := by
  have hafter := h.after (.draw width height)
  simp only [App.after, draws] at hafter
  exact hafter

/-- Every chat of a list that is open has messages. -/
theorem exists_threadFor (h : Reached a) {p : ChatListPage} {rest : List Page}
    (top : a.stack = .chatList p :: rest) (id title : String) :
    ∃ t, p.resource.threadFor id title = some t := by
  obtain ⟨c, hway⟩ := h.onWay
  have hlevels := hway.levels
  rw [top] at hlevels
  obtain ⟨hpage, hkind⟩ := list_of_levels hlevels
  exact Resource.exists_threadFor (Resource.thread_of_chatList _ hpage hkind) id title

end Reached

/-- A list of chats that is on top once the picture is drawn has been drawn. -/
theorem IsOpen.selected_of_draw {a drawn : App} (o : IsOpen a) {width height : Nat} {canvas : Canvas}
    (draws : a.draw width height = .ok (drawn, canvas)) {p : ChatListPage} {rest : List Page}
    (top : drawn.stack = .chatList p :: rest) (filled : p.visibleChats ≠ []) :
    ∃ i, p.table.selection.index = some i ∧ i < p.visibleChats.length := by
  obtain ⟨rfl, hnone⟩ | ⟨page, below, b, c, r, page', c', -, -, hdraw, rfl⟩ := draw_cases draws
  · -- A page that is open has a binding.
    have hlive : drawn.world.isLive (Page.chatList p).binding = true :=
      (o.live _).2 (List.mem_map_of_mem (by rw [top]; exact List.mem_cons_self))
    rw [World.isLive, hnone _ _ top] at hlive
    cases hlive
  · obtain ⟨rfl, -⟩ := List.cons.inj top
    cases page with
    | chatList q =>
      obtain ⟨⟨q', d⟩, hlist, heq⟩ := ok_of_map hdraw
      cases heq
      obtain ⟨hchats, hselected⟩ := ChatListPage.selected_of_draw hlist
      rw [hchats] at filled ⊢
      have hpos : 0 < q.visibleChats.length := List.length_pos_iff.2 filled
      exact ⟨_, hselected filled, by omega⟩
    | hosting q | thread q | sections q =>
      obtain ⟨⟨q', d⟩, -, heq⟩ := ok_of_map hdraw
      cases heq

/-- While the palette is closed, Enter does what the page on top asks for. -/
theorem press_enter {a : App} (closed : a.palette.isOpen = false) {k : Key} (enter : k.code = .enter)
    {top : Page} {rest : List Page} (stack : a.stack = top :: rest) :
    a.press k = { a with stack := (top.press k).1 :: rest }.perform (top.press k).1 (top.press k).2 := by
  have hkey (ch : Char) : k.isCharacter ch = false := by simp [Key.isCharacter, enter]
  simp only [press, hkey, Bool.false_and, Bool.false_eq_true, if_false, Palette.press_closed closed (hkey ':'),
    pressPage, Bool.and_false, stack]

/-- In every run from the start: once the picture is drawn, with a list of chats on top whose filter is
closed, Enter does the following. If chats are shown, one of their rows is selected, and the list asks for
the page with the messages of the chat in that row; while the palette is closed, the page is put on the
stack. If no chats are shown, the list asks for nothing, and Enter changes nothing. -/
theorem enter_opens {a drawn : App} (reached : Reached a) {width height : Nat} {canvas : Canvas}
    (draws : a.draw width height = .ok (drawn, canvas)) {p : ChatListPage} {rest : List Page}
    (top : drawn.stack = .chatList p :: rest) (closed : p.table.filter.isOpen = false) {k : Key}
    (enter : k.code = .enter) :
    (p.visibleChats ≠ [] → ∃ i chat t, p.table.selection.index = some i ∧ i < p.visibleChats.length ∧
      p.visibleChats[i]? = some chat ∧ p.resource.threadFor chat.id chat.title = some t ∧
      t.IsChatOf p.resource chat.id chat.title ∧ p.press k = (p, .visit t) ∧
      (drawn.palette.isOpen = false → drawn.press k = drawn.openPage t ∧
        ∃ n b, (drawn.press k).stack = .mounted t n b :: .chatList p :: rest ∧
          (drawn.press k).world.purposes[n]? = some t.purpose)) ∧
    (p.visibleChats = [] → p.press k = (p, .none) ∧
      (drawn.palette.isOpen = false → drawn.press k = drawn)) := by
  have hpress := p.press_enter closed enter
  have hsame : { drawn with stack := Page.chatList p :: rest } = drawn := by rw [← top]
  have happ (quiet : drawn.palette.isOpen = false) : drawn.press k = drawn.perform (.chatList p) p.enter := by
    have hperform := press_enter quiet enter top
    rw [show (Page.chatList p).press k = (.chatList p, p.enter) by rw [Page.press, hpress]; rfl, hsame]
      at hperform
    exact hperform
  constructor
  · intro filled
    obtain ⟨i, hselected, hlt⟩ := reached.isOpen.selected_of_draw draws top filled
    obtain ⟨chat, hchat⟩ : ∃ chat, p.visibleChats[i]? = some chat := ⟨_, List.getElem?_eq_getElem hlt⟩
    obtain ⟨t, hthread⟩ := (reached.drawn draws).exists_threadFor top chat.id chat.title
    have henter := ChatListPage.enter_of_selected hselected hchat hthread
    refine ⟨i, chat, t, hselected, hlt, hchat, hthread, Resource.isChatOf_of_threadFor hthread, ?_, ?_⟩
    · rw [hpress, henter]
    · intro quiet
      have hopen : drawn.press k = drawn.openPage t := by
        rw [happ quiet, henter]
        rfl
      refine ⟨hopen, ?_⟩
      rw [hopen, openPage_eq, top]
      exact ⟨_, _, rfl, purpose_mount _ t⟩
  · intro empty
    have henter := ChatListPage.enter_of_empty empty
    refine ⟨by rw [hpress, henter], fun quiet => ?_⟩
    rw [happ quiet, henter]
    rfl

/-- The list of chats on top of the stack. -/
def topList? (a : App) : Option ChatListPage :=
  match a.stack with
  | .chatList p :: _ => some p
  | _ => none

theorem stack_of_topList? {a : App} {p : ChatListPage} (h : a.topList? = some p) :
    ∃ rest, a.stack = .chatList p :: rest := by
  unfold topList? at h
  split at h
  · next q rest hstack =>
    cases h
    exact ⟨rest, hstack⟩
  · cases h

/-- A program with three chats, of which the filter lets two pass, after the third row has been selected. -/
def narrowed : App :=
  let listed (id title : String) : Json := .obj [("id", .str id), ("title", .str title)]
  [Event.goOn (.job 0), .tick, .draw 24 8, .press (.plain 'j'), .press (.plain 'j'),
    .press (.plain '/'), .press (.plain 'a'), .press { code := .enter }].foldl after
    (start plainConfig (.start 0 "" .empty fun _ _ =>
      ⟨0, .ok (.arr [listed "7" "Ann", listed "8" "Bob", listed "9" "Ada"])⟩) (some "chats"))

/-- Once it is drawn, the second of the two rows is selected, and Enter opens the chat there. -/
theorem narrowed_opens : Reached narrowed ∧ ∃ drawn canvas p rest,
    narrowed.draw 24 8 = .ok (drawn, canvas) ∧ drawn.stack = .chatList p :: rest ∧
    p.table.filter.isOpen = false ∧ p.visibleChats.map Snapshot.Chat.id = ["7", "9"] ∧
    ∃ chat t, p.table.selection.index = some 1 ∧ p.visibleChats[1]? = some chat ∧
      t.IsChatOf p.resource chat.id chat.title ∧ drawn.press { code := .enter } = drawn.openPage t ∧
      (drawn.openPage t).breadcrumb = ["Chats", "Ada"] := by
  have hreached : Reached narrowed := (Reached.start _ _ _ _ _ _).events _
  have hfacts : (narrowed.draw 24 8).toOption.any (fun result =>
      !result.1.palette.isOpen && (result.1.press { code := .enter }).breadcrumb == ["Chats", "Ada"] &&
        result.1.topList?.any fun p => !p.table.filter.isOpen && p.table.selection.index == some 1 &&
          p.visibleChats.map Snapshot.Chat.id == ["7", "9"]) = true := by
    decide +kernel
  cases hdraw : narrowed.draw 24 8 with
  | error fault =>
    rw [hdraw] at hfacts
    cases hfacts
  | ok result =>
    obtain ⟨drawn, canvas⟩ := result
    simp only [hdraw, Except.toOption, Option.any_some, Option.any_eq_true, Bool.and_eq_true,
      Bool.not_eq_true', beq_iff_eq] at hfacts
    obtain ⟨⟨hquiet, hway⟩, p, hlist, ⟨hclosed, hindex⟩, hchats⟩ := hfacts
    obtain ⟨rest, hstack⟩ := stack_of_topList? hlist
    have hfilled : p.visibleChats ≠ [] := by
      intro hnone
      rw [hnone] at hchats
      cases hchats
    obtain ⟨i, chat, t, hselected, -, hchat, -, hmessages, -, hopens⟩ :=
      (enter_opens hreached hdraw hstack hclosed (k := { code := .enter }) rfl).1 hfilled
    obtain rfl : 1 = i := Option.some.inj (hindex.symm.trans hselected)
    obtain ⟨hpress, -⟩ := hopens hquiet
    rw [hpress] at hway
    exact ⟨hreached, drawn, canvas, p, rest, rfl, hstack, hclosed, hchats, chat, t, hindex, hchat, hmessages,
      hpress, hway⟩

end App

end Lookout
