import Lookout.Config.Basic
import Lookout.Input.Palette
import Lookout.Notification
import Lookout.Page.Basic
import Lookout.Resource.Resolve
import Lookout.World.Run

/-!
# The program

The stack of open pages, the palette and the notifications, over the world in which the pages live. Keys
go to the palette first, then to the page on top; a tick applies what the fetches have brought.

* **`hasQuit_press`** — no key takes back that the user has quit.
-/

namespace Lookout

/-- The state of the program. The page on top of the stack comes first. -/
structure App where
  world : World
  stack : List Page
  palette : Palette
  notifications : NotificationQueue
  resources : List Resource
  title : String
  apiUrl : String
  hasQuit : Bool

namespace App

/-- The title of a program that was given none. -/
def defaultTitle : String := "agency-dash"

/-- The page that opens if none is asked for. -/
def defaultPage : String := "hosting"

/-- Tells the user something. -/
def notify (a : App) (message : String) (kind : NotificationKind) : App :=
  { a with notifications := a.notifications.push message kind a.world.now a.world.wall }

/-- Mounts the page of a resource on top of the stack. -/
def openPage (a : App) (r : Resource) : App :=
  let n := a.world.mounted.length
  let world := a.world.mount r.policy r.sections
  match world.binding? n with
  | some b => { a with world := world, stack := .mounted r n b :: a.stack }
  | none => a

/-- Unmounts every page. -/
def closeAll (a : App) : App :=
  { a with
    world := a.stack.foldl (fun w p => w.unmount p.binding) a.world
    stack := [] }

/-- Replaces all pages by the page of a resource. -/
def openRoot (a : App) (r : Resource) : App := a.closeAll.openPage r

/-- The resource of a name. -/
def find? (a : App) (name : String) : Option Resource := a.resources.find? (·.name = name)

/-- The program at its start, showing the page that was asked for. -/
def start (config : Config) (world : World) (page : Option String) : App :=
  let resources := Resource.resolve config
  let a : App :=
    { world := world
      stack := []
      palette := .new (Command.all resources)
      notifications := .new config.notificationTime
      resources := resources
      title := config.title.getD defaultTitle
      apiUrl := config.api.url
      hasQuit := false }
  let name := (page.or config.defaultPage).getD defaultPage
  match a.find? name with
  | some r => a.openRoot r
  | none =>
    let a := a.notify ("Unknown page '" ++ name ++ "', showing hosting") .warning
    match a.find? defaultPage with
    | some r => a.openRoot r
    | none => a

/-- Runs a command. -/
def execute (a : App) (command : String) : App :=
  if command = "" then a
  else if command = Command.quit.name then { a with hasQuit := true }
  else
    match a.find? command with
    | some r => a.openRoot r
    | none => a.notify ("Unknown command: " ++ command) .warning

/-- Removes the notification that came last. -/
def dismissLatest (a : App) : App :=
  match a.notifications.latest? with
  | some n => { a with notifications := a.notifications.dismiss n.id }
  | none => a

/-- Leaves the page on top; leaving the last one quits the program. -/
def goBack (a : App) : App :=
  match a.stack with
  | top :: below :: rest =>
    { a with world := a.world.unmount top.binding, stack := below :: rest }
  | _ => { a with hasQuit := true }

/-- Does what the page on top asks for. -/
def perform (a : App) (top : Page) : PageAction → App
  | .none => a
  | .refresh => { a with world := a.world.refresh top.binding }
  | .back => a.goBack
  | .visit r => a.openPage r

/-- A filter gets every key that the palette leaves. -/
def isFiltering (a : App) : Bool :=
  match a.stack with
  | top :: _ => top.isFiltering
  | [] => false

/-- Takes in a key that the palette has left. -/
def pressPage (a : App) (k : Key) : App :=
  if !a.isFiltering && k.isCharacter 'x' then a.dismissLatest
  else
    match a.stack with
    | [] => a
    | top :: rest =>
      let pressed := top.press k
      { a with stack := pressed.1 :: rest }.perform pressed.1 pressed.2

/-- Takes in a key. -/
def press (a : App) (k : Key) : App :=
  if k.isCharacter 'c' && k.control then { a with hasQuit := true }
  else
    match a.palette.press k with
    | (_, .notHandled) => a.pressPage k
    | (p, .submitted command) => { a with palette := p }.execute command
    | (p, _) => { a with palette := p }

theorem hasQuit_openPage (a : App) (r : Resource) : (a.openPage r).hasQuit = a.hasQuit := by
  simp only [openPage]
  split <;> rfl

theorem hasQuit_openRoot (a : App) (r : Resource) : (a.openRoot r).hasQuit = a.hasQuit :=
  hasQuit_openPage a.closeAll r

theorem hasQuit_execute {a : App} (h : a.hasQuit = true) (command : String) :
    (a.execute command).hasQuit = true := by
  unfold execute
  split
  · exact h
  · split
    · rfl
    · split
      · rw [hasQuit_openRoot]
        exact h
      · exact h

theorem hasQuit_perform {a : App} (h : a.hasQuit = true) (top : Page) (action : PageAction) :
    (a.perform top action).hasQuit = true := by
  cases action with
  | none => exact h
  | refresh => exact h
  | back =>
    simp only [perform, goBack]
    split
    · exact h
    · rfl
  | visit r => exact (hasQuit_openPage a r).trans h

theorem hasQuit_pressPage {a : App} (h : a.hasQuit = true) (k : Key) :
    (a.pressPage k).hasQuit = true := by
  unfold pressPage
  split
  · unfold dismissLatest
    split <;> exact h
  · split
    · exact h
    · exact hasQuit_perform (by exact h) _ _

/-- No key takes back that the user has quit. -/
theorem hasQuit_press {a : App} (h : a.hasQuit = true) (k : Key) : (a.press k).hasQuit = true := by
  unfold press
  split
  · rfl
  · split
    · exact hasQuit_pressPage h k
    · exact hasQuit_execute (by exact h) _
    · exact h

/-- Applies to one page what its fetches have brought. -/
def tickPage (p : Page) (world : World) (q : NotificationQueue) :
    Page × World × NotificationQueue :=
  match world.binding? p.binding with
  | none => (p, world, q)
  | some b => (if b.inbox.isEmpty then p else p.updated b.poll, world.report p.binding q)

/-- Applies to every page what its fetches have brought, those below first, and lets notifications
leave. -/
def tick (a : App) : App :=
  let (stack, world, q) := a.stack.foldr (fun p (done, world, q) =>
    let (p, world, q) := tickPage p world q
    (p :: done, world, q)) (([] : List Page), a.world, a.notifications)
  { a with stack := stack, world := world, notifications := q.expire world.now }

/-- Lets time pass. -/
def advance (a : App) (millis : Nat) : App := { a with world := a.world.advance millis }

/-- The way to the page on top. -/
def breadcrumb (a : App) : List String := a.stack.reverse.map Page.title

/-- What the page on top says about its age. -/
def status (a : App) : Option String :=
  match a.stack with
  | [] => none
  | top :: _ => (a.world.binding? top.binding).bind (·.freshness? a.world.wall)

end App

end Lookout
