import Lookout.Proofs.App.Programs
import Lookout.Proofs.Resource.Chats
import Lookout.Proofs.World.Purposes

/-!
# Ways through the pages

At every moment the stack holds the page of one of the program's resources, and at most one page above
it: then the lower one lists chats, and the upper one shows the messages of a chat of that list. Leaving
the only page quits, and that is never taken back.

* **`navigated_after`** — what anything that happens does to the stack.
* **`navigation`** — the two shapes of the stack, in every run from the start.
-/

namespace Lookout

/-- A table asks to go back without being changed, and not for the key that dismisses notifications. -/
theorem Table.back_of_press {t : Table} {k : Key} (h : (t.press k).2 = .back) :
    (t.press k).1 = t ∧ k.isCharacter 'x' = false := by
  unfold Table.press at h ⊢
  split at h
  · unfold Table.pressRows at h ⊢
    unfold Key.isCharacter
    split at h <;> simp_all
  · cases h

/-- What the binding of a resource is for. -/
def Resource.purpose (r : Resource) : Purpose := ⟨r.policy.key, r.policy, r.sections⟩

namespace Page

/-- The page is that of a resource: it is drawn and titled as the resource says, a list of chats is the
list of that resource, and its binding is mounted for the data of the resource. -/
def Shows (purposes : List Purpose) (p : Page) (r : Resource) : Prop :=
  ∃ n, p.face = ⟨r.kind, r.title, n, if r.kind = .chatList then some r else none⟩ ∧
    purposes[n]? = some r.purpose

theorem face_mounted (r : Resource) (n : Nat) (b : Binding) : (mounted r n b).face =
    ⟨r.kind, r.title, n, if r.kind = .chatList then some r else none⟩ := by
  unfold mounted
  split <;> simp [*, face, PageContent.mounted]

theorem title_mounted (r : Resource) (n : Nat) (b : Binding) : (mounted r n b).title = r.title := by
  unfold mounted
  split <;> rfl

/-- A page that is mounted shows its resource. -/
theorem shows_mounted {purposes : List Purpose} {r : Resource} {n : Nat}
    (h : purposes[n]? = some r.purpose) (b : Binding) : (mounted r n b).Shows purposes r :=
  ⟨n, face_mounted r n b, h⟩

/-- What a page shows depends on what stays of it, and no binding changes what it is for. -/
theorem Shows.mono {purposes more : List Purpose} {p q : Page} {r : Resource} (h : p.Shows purposes r)
    (face : q.face = p.face) : q.Shows (purposes ++ more) r := by
  obtain ⟨n, hface, hpurpose⟩ := h
  refine ⟨n, face.trans hface, ?_⟩
  rw [List.getElem?_append_left (List.getElem?_eq_some_iff.1 hpurpose).1, hpurpose]

/-- A page that lists chats lists those of the resource that it shows. -/
theorem Shows.of_chatList {purposes : List Purpose} {l : ChatListPage} {r : Resource}
    (h : (Page.chatList l).Shows purposes r) : r.kind = .chatList ∧ l.resource = r := by
  obtain ⟨n, hface, -⟩ := h
  obtain ⟨hkind, -, -, hlist⟩ := Page.Face.mk.inj hface
  rw [if_pos hkind.symm] at hlist
  exact ⟨hkind.symm, Option.some.inj hlist⟩

/-! ## What keys ask for -/

/-- Only the page of a list of chats asks for another page: the messages of a chat that it shows. -/
theorem chat_of_visit {p : Page} {k : Key} {t : Resource} (h : (p.press k).2 = .visit t) :
    ∃ l chat, (p.press k).1 = .chatList l ∧ chat ∈ l.visibleChats ∧
      l.resource.threadFor chat.id chat.title = some t := by
  cases p with
  | hosting p =>
    have hvisit : (p.press k).2 = .visit t := h
    unfold HostingPage.press at hvisit
    dsimp only at hvisit
    split at hvisit <;> cases hvisit
  | chatList p =>
    have hvisit : (p.press k).2 = .visit t := h
    refine ⟨(p.press k).1, ?_⟩
    unfold ChatListPage.press at hvisit
    dsimp only at hvisit
    split at hvisit
    · cases hvisit
    · cases hvisit
    · cases hvisit
    · next hresult =>
      split at hvisit
      · unfold ChatListPage.enter at hvisit
        split at hvisit
        · next hthread =>
          obtain rfl := PageAction.visit.inj hvisit
          obtain ⟨i, -, hchat⟩ := Option.bind_eq_some_iff.1 hthread
          obtain ⟨chat, hmem, hthread⟩ := Option.bind_eq_some_iff.1 hchat
          have hpress : (p.press k).1 = { p with table := (p.table.press k).1 } := by
            unfold ChatListPage.press
            simp only [hresult]
          rw [hpress]
          exact ⟨chat, congrArg (fun l => Page.chatList l) hpress, List.mem_of_getElem? hmem, hthread⟩
        · cases hvisit
      · cases hvisit
  | thread p =>
    have hvisit : (p.press k).2 = .visit t := h
    unfold ThreadPage.press at hvisit
    dsimp only at hvisit
    split at hvisit <;> cases hvisit
  | sections p =>
    have hvisit : (p.press k).2 = .visit t := h
    unfold SectionsPage.press at hvisit
    dsimp only at hvisit
    split at hvisit <;> cases hvisit

/-- A page asks to go back without being changed, and not for the key that dismisses notifications. -/
theorem back_of_press {p : Page} {k : Key} (h : (p.press k).2 = .back) :
    (p.press k).1 = p ∧ k.isCharacter 'x' = false := by
  cases p with
  | hosting p =>
    have hback : (p.press k).2 = .back := h
    suffices (p.press k).1 = p ∧ k.isCharacter 'x' = false from
      ⟨congrArg Page.hosting this.1, this.2⟩
    unfold HostingPage.press at hback ⊢
    dsimp only at hback ⊢
    split at hback <;> cases hback
    next hresult =>
      obtain ⟨htable, hkey⟩ := Table.back_of_press hresult
      simp [htable, hkey]
  | chatList p =>
    have hback : (p.press k).2 = .back := h
    suffices (p.press k).1 = p ∧ k.isCharacter 'x' = false from
      ⟨congrArg Page.chatList this.1, this.2⟩
    unfold ChatListPage.press at hback ⊢
    dsimp only at hback ⊢
    split at hback
    · cases hback
    · cases hback
    · next hresult =>
      obtain ⟨htable, hkey⟩ := Table.back_of_press hresult
      simp [htable, hkey]
    · split at hback
      · unfold ChatListPage.enter at hback
        split at hback <;> cases hback
      · cases hback
  | thread p =>
    have hback : (p.press k).2 = .back := h
    suffices (p.press k).1 = p ∧ k.isCharacter 'x' = false from
      ⟨congrArg Page.thread this.1, this.2⟩
    unfold ThreadPage.press at hback ⊢
    unfold Key.isCharacter
    dsimp only at hback ⊢
    split at hback <;> simp_all
  | sections p =>
    have hback : (p.press k).2 = .back := h
    suffices (p.press k).1 = p ∧ k.isCharacter 'x' = false from
      ⟨congrArg Page.sections this.1, this.2⟩
    unfold SectionsPage.press at hback ⊢
    unfold Key.isCharacter
    dsimp only at hback ⊢
    split at hback <;> simp_all

end Page

namespace App

/-! ## What happens to the stack -/

/-- What a step from one program to the next does to the stack: the pages stay, the page of a resource
opens in place of all, the messages of a chat open above the list that shows it, or the page on top is
left for the one below. -/
inductive Navigated (a b : App) : Prop
  | stays (faces : b.stack.map Page.face = a.stack.map Page.face)
  | opens {r : Resource} {n : Nat} {m : Binding} (offered : r ∈ a.resources)
      (stack : b.stack = [.mounted r n m]) (mounted : b.world.purposes[n]? = some r.purpose)
  | visits {top : Page} {rest : List Page} {l : ChatListPage} {chat : Snapshot.Chat} {t : Resource}
      {n : Nat} {m : Binding} (was : a.stack = top :: rest) (face : (Page.chatList l).face = top.face)
      (shown : chat ∈ l.visibleChats) (thread : l.resource.threadFor chat.id chat.title = some t)
      (stack : b.stack = .mounted t n m :: .chatList l :: rest)
      (mounted : b.world.purposes[n]? = some t.purpose)
  | leaves {top below : Page} {rest : List Page} (was : a.stack = top :: below :: rest)
      (stack : b.stack = below :: rest)

theorem purpose_mount (w : World) (r : Resource) :
    (w.mount r.policy r.sections).purposes[w.mounted.length]? = some r.purpose := by
  rw [World.purposes_mount, ← World.length_purposes]
  exact List.getElem?_concat_length

/-- The page that opens in place of all is the only one, and takes the next binding. -/
theorem openRoot_eq (a : App) (r : Resource) : a.openRoot r =
    { a with
      world := a.closeAll.world.mount r.policy r.sections
      stack := [.mounted r a.closeAll.world.mounted.length
        (.mounted r.policy.key (a.closeAll.world.read r.policy.key))] } :=
  openPage_eq a.closeAll r

theorem navigated_openRoot {a : App} (b : App) {r : Resource} (offered : r ∈ a.resources) :
    Navigated a (b.openRoot r) := by
  rw [openRoot_eq]
  exact .opens offered rfl (purpose_mount _ r)

theorem navigated_execute (a : App) (command : String) : Navigated a (a.execute command) := by
  unfold execute
  split
  · exact .stays rfl
  · split
    · exact .stays rfl
    · split
      · next hfind => exact navigated_openRoot a (List.mem_of_find?_eq_some hfind)
      · exact .stays rfl

theorem navigated_perform {a : App} {top : Page} {rest : List Page} (was : a.stack = top :: rest)
    (k : Key) :
    Navigated a ({ a with stack := (top.press k).1 :: rest }.perform (top.press k).1 (top.press k).2) := by
  have hfaces : ((top.press k).1 :: rest).map Page.face = a.stack.map Page.face := by
    rw [was, List.map_cons, List.map_cons, Page.face_press]
  cases haction : (top.press k).2 with
  | none => exact .stays hfaces
  | refresh => exact .stays hfaces
  | back =>
    cases rest with
    | nil => exact .stays hfaces
    | cons below rest => exact .leaves was rfl
  | visit t =>
    obtain ⟨l, chat, hlist, hshown, hthread⟩ := Page.chat_of_visit haction
    rw [perform, openPage_eq, hlist]
    refine .visits was ?_ hshown hthread rfl (purpose_mount _ t)
    rw [← hlist, Page.face_press]

theorem navigated_pressPage (a : App) (k : Key) : Navigated a (a.pressPage k) := by
  unfold pressPage
  split
  · unfold dismissLatest
    split <;> exact .stays rfl
  · split
    · exact .stays rfl
    · next hstack => exact navigated_perform hstack k

theorem navigated_press (a : App) (k : Key) : Navigated a (a.press k) := by
  unfold press
  split
  · exact .stays rfl
  · split
    · exact navigated_pressPage a k
    · next p command _ =>
      cases navigated_execute { a with palette := p } command with
      | stays faces => exact .stays faces
      | opens offered stack mounted => exact .opens offered stack mounted
      | visits was face shown thread stack mounted => exact .visits was face shown thread stack mounted
      | leaves was stack => exact .leaves was stack
    · exact .stays rfl

/-- What anything that happens does to the stack. -/
theorem navigated_after (a : App) (e : Event) : Navigated a (a.after e) := by
  cases e with
  | press k => exact navigated_press a k
  | tick => exact .stays (faces_tick a)
  | draw width height =>
    simp only [after]
    split
    · next h => exact .stays (draw_eq h).2
    · exact .stays rfl
  | outside m h => exact .stays rfl

/-! ## What the program offers -/

/-- The program has the pages of a configuration, and its palette their commands. -/
structure Offers (a : App) (c : Config) : Prop where
  resources : a.resources = Resource.resolve c
  commands : a.palette.commands = Command.all (Resource.resolve c)

theorem Offers.openRoot {a : App} {c : Config} (h : Offers a c) (r : Resource) : Offers (a.openRoot r) c := by
  rw [openRoot_eq]
  exact ⟨h.resources, h.commands⟩

theorem Offers.execute {a : App} {c : Config} (h : Offers a c) (command : String) :
    Offers (a.execute command) c := by
  unfold App.execute
  split
  · exact h
  · split
    · exact ⟨h.resources, h.commands⟩
    · split
      · exact h.openRoot _
      · exact ⟨h.resources, h.commands⟩

theorem Offers.perform {a : App} {c : Config} (h : Offers a c) (top : Page) (action : PageAction) :
    Offers (a.perform top action) c := by
  cases action with
  | none => exact h
  | refresh => exact ⟨h.resources, h.commands⟩
  | back =>
    simp only [App.perform, goBack]
    split <;> exact ⟨h.resources, h.commands⟩
  | visit r =>
    rw [App.perform, openPage_eq]
    exact ⟨h.resources, h.commands⟩

theorem Offers.pressPage {a : App} {c : Config} (h : Offers a c) (k : Key) : Offers (a.pressPage k) c := by
  unfold App.pressPage
  split
  · unfold dismissLatest
    split <;> exact ⟨h.resources, h.commands⟩
  · split
    · exact h
    · next top rest _ =>
      have hpressed : Offers { a with stack := (top.press k).1 :: rest } c := ⟨h.resources, h.commands⟩
      exact hpressed.perform _ _

theorem commands_press (p : Palette) (k : Key) : (p.press k).1.commands = p.commands := by
  unfold Palette.press
  split
  · unfold Palette.pressOpen
    split
    case h_3 | h_4 | h_5 | h_6 =>
      unfold Palette.move
      dsimp only
      split <;> rfl
    case h_7 => split <;> rfl
    all_goals rfl
  · split <;> rfl

theorem Offers.press {a : App} {c : Config} (h : Offers a c) (k : Key) : Offers (a.press k) c := by
  have hpalette {p : Palette} {result : PaletteResult} (hp : a.palette.press k = (p, result)) :
      Offers { a with palette := p } c := by
    refine ⟨h.resources, ?_⟩
    have hcommands := commands_press a.palette k
    rw [hp] at hcommands
    exact hcommands.trans h.commands
  unfold App.press
  split
  · exact ⟨h.resources, h.commands⟩
  · split
    · exact h.pressPage k
    · next hp => exact (hpalette hp).execute _
    · next hp => exact hpalette hp

/-- Nothing that happens changes what the program offers. -/
theorem Offers.after {a : App} {c : Config} (h : Offers a c) (e : Event) : Offers (a.after e) c := by
  cases e with
  | press k => exact h.press k
  | tick => exact ⟨h.resources, h.commands⟩
  | draw width height =>
    simp only [App.after]
    split
    · next hdraw =>
      rw [(draw_eq hdraw).1]
      exact ⟨h.resources, h.commands⟩
    · exact h
  | outside m hm => exact ⟨h.resources, h.commands⟩

/-- A program offers the pages of the configuration that it was started with. -/
theorem offers_start (c : Config) (w : World) (page : Option String) : Offers (start c w page) c := by
  unfold start
  dsimp only
  split
  · exact Offers.openRoot ⟨rfl, rfl⟩ _
  · split
    · exact Offers.openRoot ⟨rfl, rfl⟩ _
    · exact ⟨rfl, rfl⟩

/-! ## The shapes of the stack -/

/-- The two shapes of the stack: the page of a resource, or a list of chats with the messages of one of its
chats above it. -/
inductive Levels (c : Config) (purposes : List Purpose) : List Page → Prop
  | root {p : Page} {r : Resource} (page : r ∈ Resource.resolve c) (shows : p.Shows purposes r) :
      Levels c purposes [p]
  | chat {top below : Page} {r t : Resource} {id title : String} (page : r ∈ Resource.resolve c)
      (lists : r.kind = .chatList) (shows : below.Shows purposes r)
      (thread : r.threadFor id title = some t) (above : top.Shows purposes t) :
      Levels c purposes [top, below]

/-- Pages of which the same stays make the same levels. -/
theorem Levels.mono {c : Config} {purposes more : List Purpose} {stack stack' : List Page}
    (h : Levels c purposes stack) (faces : stack'.map Page.face = stack.map Page.face) :
    Levels c (purposes ++ more) stack' := by
  cases h with
  | root page shows =>
    obtain ⟨p, rfl, hface⟩ := List.map_eq_singleton_iff.1 faces
    exact .root page (shows.mono hface)
  | chat page lists shows thread above =>
    obtain ⟨top, rest, rfl, htop, hrest⟩ := List.map_eq_cons_iff.1 faces
    obtain ⟨below, rfl, hbelow⟩ := List.map_eq_singleton_iff.1 hrest
    exact .chat page lists (shows.mono hbelow) thread (above.mono htop)

/-- A step keeps the shapes of the stack. -/
theorem Levels.step {c : Config} {a b : App} {more : List Purpose} (h : Levels c a.world.purposes a.stack)
    (resources : a.resources = Resource.resolve c) (purposes : b.world.purposes = a.world.purposes ++ more)
    (step : Navigated a b) : Levels c b.world.purposes b.stack := by
  cases step with
  | stays faces => exact purposes ▸ h.mono faces
  | opens offered stack mounted =>
    rw [stack]
    exact .root (resources ▸ offered) (Page.shows_mounted mounted _)
  | @visits top rest l chat t n m was face shown thread stack mounted =>
    rw [was] at h
    rw [stack]
    cases h with
    | root page shows =>
      have hlist : (Page.chatList l).Shows (a.world.purposes ++ more) _ := shows.mono face
      rw [← purposes] at hlist
      obtain ⟨hkind, rfl⟩ := hlist.of_chatList
      exact .chat page hkind hlist thread (Page.shows_mounted mounted _)
    | chat page lists shows thread' above =>
      -- Messages list no chats that could be opened above them.
      have hlist : (Page.chatList l).Shows (a.world.purposes ++ []) _ := above.mono face
      cases hlist.of_chatList.1.symm.trans (Resource.isChatOf_of_threadFor thread').kind
  | @leaves top below rest was stack =>
    rw [was] at h
    rw [stack, purposes]
    cases h with
    | chat page lists shows thread above => exact .root page (shows.mono rfl)

/-- A program that offers the pages of a configuration, with a stack of one of the two shapes. -/
structure OnWay (c : Config) (a : App) : Prop where
  offers : Offers a c
  levels : Levels c a.world.purposes a.stack

/-- The program finds its way from the start, whatever page it is asked for. -/
theorem onWay_start (c : Config) (w : World) (page : Option String) : OnWay c (start c w page) := by
  refine ⟨offers_start c w page, ?_⟩
  have hroot {a : App} {r : Resource} (h : r ∈ Resource.resolve c) :
      Levels c (a.openRoot r).world.purposes (a.openRoot r).stack := by
    rw [openRoot_eq]
    exact .root h (Page.shows_mounted (purpose_mount _ r) _)
  unfold start
  dsimp only
  split
  · next hfind => exact hroot (List.mem_of_find?_eq_some hfind)
  · split
    · next hfind => exact hroot (List.mem_of_find?_eq_some hfind)
    · next hnone =>
      -- There is always a page of that name.
      have hbuiltin : defaultPage ∈ Resource.names Resource.builtin := by decide
      obtain ⟨r, hr, hname⟩ := Resource.exists_of_mem_builtin c hbuiltin
      have hfind := Resource.find?_name hr
      rw [hname] at hfind
      cases hfind.symm.trans hnone

theorem OnWay.after {c : Config} {a : App} (h : OnWay c a) (e : Event) : OnWay c (a.after e) := by
  obtain ⟨moves, hmoves⟩ := (onward_after a e).run
  have hpurposes := World.purposes_run a.world moves
  rw [← hmoves] at hpurposes
  exact ⟨h.offers.after e, h.levels.step h.offers.resources hpurposes (navigated_after a e)⟩

theorem OnWay.events {c : Config} {a : App} (h : OnWay c a) (events : List Event) :
    OnWay c (events.foldl App.after a) := by
  induction events generalizing a with
  | nil => exact h
  | cons e events ih => exact ih (h.after e)

/-! ## Quitting -/

/-- Nothing that happens takes back that the user has quit. -/
theorem hasQuit_after {a : App} (h : a.hasQuit = true) (e : Event) : (a.after e).hasQuit = true := by
  cases e with
  | press k => exact hasQuit_press h k
  | tick => exact h
  | draw width height =>
    simp only [after]
    split
    · next hdraw =>
      rw [(draw_eq hdraw).1]
      exact h
    · exact h
  | outside m hm => exact h

theorem hasQuit_events {a : App} (h : a.hasQuit = true) (events : List Event) :
    (events.foldl after a).hasQuit = true := by
  induction events generalizing a with
  | nil => exact h
  | cons e events ih => exact ih (hasQuit_after h e)

/-- Leaving the only page quits and keeps it. -/
theorem press_back {a : App} {p : Page} {k : Key} (only : a.stack = [p])
    (left : (a.palette.press k).2 = .notHandled) (back : (p.press k).2 = .back) :
    a.press k = { a with hasQuit := true } := by
  obtain ⟨hsame, hkey⟩ := Page.back_of_press back
  have hpage : a.pressPage k = { a with hasQuit := true } := by
    simp only [pressPage, hkey, Bool.and_false, Bool.false_eq_true, if_false, only, hsame, back, perform,
      goBack]
  unfold press
  split
  · rfl
  · split
    · exact hpage
    · next hsubmitted => rw [hsubmitted] at left; cases left
    · next hother _ hp =>
      rw [hp] at left
      exact absurd left hother

/-! ## Unknown commands -/

/-- A palette hands a command in for Enter only. -/
theorem enter_of_submitted {p q : Palette} {k : Key} {command : String}
    (h : p.press k = (q, .submitted command)) : k.code = .enter := by
  unfold Palette.press at h
  split at h
  · unfold Palette.pressOpen at h
    split at h
    case h_2 hcode => exact hcode
    case h_7 => split at h <;> cases h
    all_goals cases h
  · split at h <;> cases h

/-- A command that is handed in and names no page is told of, and changes nothing else. -/
theorem press_unknown {a : App} {p : Palette} {k : Key} {command : String}
    (submitted : a.palette.press k = (p, .submitted command)) (typed : command ≠ "")
    (stays : command ≠ Command.quit.name) (unknown : command ∉ Resource.names a.resources) :
    a.press k =
      { a with
        palette := p
        notifications := a.notifications.push ("Unknown command: " ++ command) .warning a.world.now
          a.world.wall } := by
  have hkey : k.isCharacter 'c' = false := by
    rw [Key.isCharacter, enter_of_submitted submitted]
    rfl
  have hnone : a.resources.find? (·.name = command) = none := by
    rw [List.find?_eq_none]
    intro r hr hname
    obtain rfl : r.name = command := by simpa using hname
    exact unknown (List.mem_map_of_mem hr)
  simp only [press, hkey, Bool.false_and, Bool.false_eq_true, if_false, submitted, execute, typed, stays,
    find?, hnone, notify]

/-! ## Runs -/

/-- In every run from the start, in whatever world and with whatever page asked for, the stack has one of
two shapes: the page of a resource of the configuration, or a list of chats of such a resource with the
messages of one of its chats above it. A step opens a page in place of all, opens the messages of a chat
that a list shows, leaves the page on top for the one below, or keeps the pages. Once the user has quit,
that stays so; leaving the only page quits and changes nothing else; and a command that is no page's name
and does not quit changes nothing but for one warning, which is the one item that joins the queue. -/
theorem navigation (c : Config) (page : Option String) (w : World) (events : List Event) :
    let a := events.foldl after (start c w page)
    Levels c a.world.purposes a.stack ∧ (∀ e, Navigated a (a.after e)) ∧
    (a.hasQuit = true → ∀ later : List Event, (later.foldl after a).hasQuit = true) ∧
    (∀ p k, a.stack = [p] → (a.palette.press k).2 = .notHandled → (p.press k).2 = .back →
      a.press k = { a with hasQuit := true }) ∧
    ∀ k p command, a.palette.press k = (p, .submitted command) → command ≠ "" →
      command ≠ Command.quit.name → command ∉ Resource.names (Resource.resolve c) →
      a.press k =
        { a with
          palette := p
          notifications := a.notifications.push ("Unknown command: " ++ command) .warning a.world.now
            a.world.wall } ∧
      ∃ n : Notification, (a.press k).notifications.items = a.notifications.items ++ [n] ∧
        n.id = a.notifications.nextId ∧ n.kind = .warning ∧ n.message = "Unknown command: " ++ command := by
  intro a
  have hway : OnWay c a := (onWay_start c w page).events events
  refine ⟨hway.levels, navigated_after a, fun h later => hasQuit_events h later,
    fun p k only left back => press_back only left back, ?_⟩
  intro k p command submitted typed stays unknown
  have hwarned : a.press k = _ := press_unknown submitted typed stays (by rwa [hway.offers.resources])
  refine ⟨hwarned, ?_⟩
  rw [hwarned]
  exact NotificationQueue.push_items _ _ _ _ _

end App

end Lookout
