import Lookout.Page.Action
import Lookout.Page.Content
import Lookout.Page.Table
import Lookout.Snapshot.ChatList
import Lookout.Text.Fit
import Lookout.Time.Timestamp

/-!
# The page of a chat list

The chats of a messenger. Enter opens the messages of the selected one.

* **`mem_visibleChats`** — the filter shows chats of the snapshot only.
-/

namespace Lookout

/-- The page with the chats of a resource. -/
structure ChatListPage where
  resource : Resource
  content : PageContent Snapshot.ChatList
  table : Table

namespace ChatListPage

open Snapshot

/-- The chats that the filter shows. -/
def visibleChats (p : ChatListPage) : List Chat :=
  match p.content.loaded? with
  | some data => data.chats.filter fun c => p.table.filter.isMatch [c.title, c.lastMessage.getD ""]
  | none => []

/-- The filter shows chats of the snapshot only. -/
theorem mem_visibleChats {p : ChatListPage} {c : Chat} (h : c ∈ p.visibleChats) :
    ∃ data, p.content.loaded? = some data ∧ c ∈ data.chats := by
  unfold visibleChats at h
  split at h
  · next data loaded => exact ⟨data, loaded, (List.mem_filter.1 h).1⟩
  · cases h

/-- The sum of the unread messages of chats. -/
def unreadSum : List Chat → Nat
  | [] => 0
  | c :: rest => c.unreadCount.toNat + unreadSum rest

/-- The sum of the unread messages of chats, if it fits into a word. -/
def unread? (chats : List Chat) : Except DrawFault Nat :=
  if unreadSum chats < 0x100000000 then .ok (unreadSum chats) else .error .unreadSum

/-- The resource of the messages of the selected chat. -/
def selectedThread? (p : ChatListPage) : Option Resource := do
  let i ← p.table.selection.index
  let chat ← p.visibleChats[i]?
  p.resource.threadFor chat.id chat.title

/-- The row of a chat. -/
def row (c : Chat) : List Span :=
  let isUnread := 0 < c.unreadCount.toNat
  let badge : Span :=
    if isUnread then
      ⟨Text.padLeft (toString c.unreadCount.toNat).toList 4 ++ [' '],
        (Style.strong .black).onGround .yellow⟩
    else .plain "     "
  let gap := Span.plain " "
  let updated := ((c.updatedAt.map Time.shortText).getD "").toList
  [badge, gap,
    ⟨Text.padRight (Text.truncate c.title.toList 28) 28,
      if isUnread then .strong .white else .colored .cyan⟩, gap,
    ⟨Text.padRight updated 12, .colored .darkGray⟩,
    ⟨Text.truncate (c.lastMessage.getD "").toList 60, .plain⟩]

/-- The heading with the number of unread messages. -/
def heading (p : ChatListPage) (b : Binding) (count unread : Nat) : String :=
  p.content.heading b (some count) ++ if 0 < unread then s!"[{unread} unread] " else ""

/-- Draws the page. -/
def draw (p : ChatListPage) (b : Binding) (c : Canvas) (r : Rect) :
    Except DrawFault (ChatListPage × Canvas) := do
  let chats := p.visibleChats
  let unread ← unread? chats
  let view := p.table.view (p.content.placeholder? b) "chats" (chats.map row)
  let (table, c) := p.table.draw c r (p.heading b chats.length unread) view
  (table.filter.draw c r).map fun c => ({ p with table := table }, c)

/-- What Enter asks for. -/
def enter (p : ChatListPage) : PageAction :=
  match p.selectedThread? with
  | some r => .visit r
  | none => .none

/-- Takes in a key. -/
def press (p : ChatListPage) (k : Key) : ChatListPage × PageAction :=
  let (table, result) := p.table.press k
  let p := { p with table := table }
  match result with
  | .handled => (p, .none)
  | .refresh => (p, .refresh)
  | .back => (p, .back)
  | .notHandled => (p, if k.code = .enter then p.enter else .none)

/-- The shortcuts of the page. -/
def shortcuts : List Shortcut :=
  pageShortcuts [filterShortcut, { key := "enter", label := "open", priority := 18 }]

end ChatListPage

end Lookout
