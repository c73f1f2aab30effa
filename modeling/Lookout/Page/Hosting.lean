import Lookout.Page.Action
import Lookout.Page.Content
import Lookout.Page.Table
import Lookout.Snapshot.Hosting
import Lookout.Text.Fit

/-!
# The hosting page

The servers with their state and costs, below a line with the totals.

* **`mem_visibleServers`** — the filter shows servers of the snapshot only.
-/

namespace Lookout

/-- The colour of the state of a server. -/
def statusColor (status : String) : Color :=
  let text := String.ofList (Text.lowercase status.toList)
  if ["active", "running", "online", "ok"].contains text then .green
  else if ["pending", "provisioning", "maintenance", "restarting"].contains text then .yellow
  else if ["stopped", "offline", "error", "failed", "suspended"].contains text then .red
  else .white

/-- The page with the servers. -/
structure HostingPage where
  content : PageContent Snapshot.Hosting
  table : Table

namespace HostingPage

open Snapshot

/-- The fields of a server in which the filter looks. -/
def searchedFields (s : Server) : List String :=
  [s.name, s.provider.getD "", s.ip.getD "", s.project.getD ""]

/-- The servers that the filter shows. -/
def visibleServers (p : HostingPage) : List Server :=
  match p.content.loaded? with
  | some data => data.servers.filter fun s => p.table.filter.isMatch (searchedFields s)
  | none => []

/-- The filter shows servers of the snapshot only. -/
theorem mem_visibleServers {p : HostingPage} {s : Server} (h : s ∈ p.visibleServers) :
    ∃ data, p.content.loaded? = some data ∧ s ∈ data.servers := by
  unfold visibleServers at h
  split at h
  · next data loaded => exact ⟨data, loaded, (List.mem_filter.1 h).1⟩
  · cases h

/-- A text cut and filled to a column. -/
def column (size : Nat) (text : String) : List Char :=
  Text.padRight (Text.truncate text.toList size) size

/-- The costs of a server, or a dash, at the right end of their column. -/
def costText (s : Server) : List Char :=
  Text.padLeft ((s.monthlyCost.map Binary64.hundredthsText).getD ['-']) 9

/-- The row of a server. -/
def row (s : Server) : List Span :=
  let status := s.status.getD "-"
  let gap := Span.plain " "
  [⟨column 20 s.name, .colored .cyan⟩, gap,
    ⟨column 12 (s.provider.getD "-"), .plain⟩, gap,
    ⟨Text.padRight (s.ip.getD "-").toList 16, .plain⟩, gap,
    ⟨column 10 status, .colored (statusColor status)⟩,
    ⟨costText s, .colored .yellow⟩, .plain "  ",
    ⟨Text.truncate (s.project.getD "").toList 30, .colored .darkGray⟩]

/-- The line with the totals. -/
def totals (data : Hosting) : List Span :=
  let stats := data.stats
  let projects := match data.projects with
    | some projects => Span.plain (toString projects.length)
    | none => .styled "unavailable" (.colored .darkGray)
  [.styled " Servers " (.colored .darkGray),
    .styled s!"{stats.activeServers.toNat}/{stats.totalServers.toNat}" (.strong .green),
    .styled "   Monthly " (.colored .darkGray),
    .styled (String.ofList stats.monthlyCost.hundredthsText ++ " " ++ stats.currency.getD "")
      (.strong .yellow),
    .styled "   Projects " (.colored .darkGray), projects]

/-- Draws the line with the totals. -/
def drawTotals (c : Canvas) (r : Rect) (data : Hosting) : Canvas :=
  (Panel.draw ⟨.colored .darkGray, [], true⟩ c r).drawLines r.inner [totals data]

/-- Draws the page. -/
def draw (p : HostingPage) (b : Binding) (c : Canvas) (r : Rect) :
    Except DrawFault (HostingPage × Canvas) :=
  let (c, area) := match p.content.loaded? with
    | some data =>
      let (top, below) := r.splitTop 3
      (drawTotals c top data, below)
    | none => (c, r)
  let servers := p.visibleServers
  let heading := p.content.heading b (some servers.length)
  let view := p.table.view (p.content.placeholder? b) "servers" (servers.map row)
  let (table, c) := p.table.draw c area heading view
  (table.filter.draw c r).map fun c => ({ p with table := table }, c)

/-- Takes in a key. -/
def press (p : HostingPage) (k : Key) : HostingPage × PageAction :=
  let (table, result) := p.table.press k
  let p := { p with table := table }
  match result with
  | .refresh => (p, .refresh)
  | .back => (p, .back)
  | .handled | .notHandled => (p, .none)

/-- The shortcuts of the page. -/
def shortcuts : List Shortcut := pageShortcuts [filterShortcut]

end HostingPage

end Lookout
