import Lookout.Page.ChatList
import Lookout.Page.Hosting
import Lookout.Page.Sections
import Lookout.Page.Thread

/-!
# Pages

A page of any kind, with what every page can do: take in a key, be drawn, and say what it is.

* **`binding_updated`** — fresh outcomes leave the number of the binding alone.
-/

namespace Lookout

/-- A page of any kind. -/
inductive Page
  | hosting (p : HostingPage)
  | chatList (p : ChatListPage)
  | thread (p : ThreadPage)
  | sections (p : SectionsPage)

namespace Page

/-- The page of a resource when it is mounted with the binding of a number. -/
def mounted (r : Resource) (n : Nat) (b : Binding) : Page :=
  match r.kind with
  | .hosting => .hosting ⟨.mounted Snapshot.Hosting.read n r.title b, .new⟩
  | .chatList => .chatList ⟨r, .mounted Snapshot.ChatList.read n r.title b, .new⟩
  | .chatThread => .thread ⟨.mounted Snapshot.ChatThread.read n r.title b, 0⟩
  | .generic => .sections ⟨.mounted .ok n r.title b, 0⟩

/-- The number of the binding. -/
def binding : Page → Nat
  | .hosting p => p.content.binding
  | .chatList p => p.content.binding
  | .thread p => p.content.binding
  | .sections p => p.content.binding

/-- The title. -/
def title : Page → String
  | .hosting p => p.content.title
  | .chatList p => p.content.title
  | .thread p => p.content.title
  | .sections p => p.content.title

/-- The page after outcomes have been applied to its binding. -/
def updated (b : Binding) : Page → Page
  | .hosting p => .hosting { p with content := p.content.updated Snapshot.Hosting.read b }
  | .chatList p => .chatList { p with content := p.content.updated Snapshot.ChatList.read b }
  | .thread p => .thread { p with content := p.content.updated Snapshot.ChatThread.read b }
  | .sections p => .sections { p with content := p.content.updated .ok b }

/-- A filter of the page gets every key. -/
def isFiltering : Page → Bool
  | .hosting p => p.table.filter.isOpen
  | .chatList p => p.table.filter.isOpen
  | .thread _ => false
  | .sections _ => false

/-- The shortcuts. -/
def shortcuts : Page → List Shortcut
  | .hosting _ => HostingPage.shortcuts
  | .chatList _ => ChatListPage.shortcuts
  | .thread _ => ThreadPage.shortcuts
  | .sections _ => SectionsPage.shortcuts

/-- Takes in a key. -/
def press (k : Key) : Page → Page × PageAction
  | .hosting p => (p.press k).map .hosting id
  | .chatList p => (p.press k).map .chatList id
  | .thread p => (p.press k).map .thread id
  | .sections p => (p.press k).map .sections id

/-- Draws the page, whose binding is `b`. -/
def draw (b : Binding) (c : Canvas) (r : Rect) : Page → Except DrawFault (Page × Canvas)
  | .hosting p => (p.draw b c r).map fun (p, c) => (.hosting p, c)
  | .chatList p => (p.draw b c r).map fun (p, c) => (.chatList p, c)
  | .thread p => (p.draw b c r).map fun (p, c) => (.thread p, c)
  | .sections p => (p.draw b c r).map fun (p, c) => (.sections p, c)

/-- Fresh outcomes leave the number of the binding alone. -/
@[simp] theorem binding_updated (b : Binding) (p : Page) : (p.updated b).binding = p.binding := by
  cases p <;> rfl

end Page

end Lookout
