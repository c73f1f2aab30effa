import Lookout.Config.Read
import Lookout.Proofs.App.Navigation
import Lookout.Proofs.App.Typing
import Lookout.Proofs.Notification.Steps

/-!
# What stops the program

Keys and ticks in the steps of the program, each of which can stop it. No count leaves its bits in runs
that are not too long, no text is cut in the wrong place, and no remainder is one by zero. What is left is
the clock: a notification leaves after the time that the configuration sets, and the program stops as it
tells something if that moment lies behind the end of its clock.

* **`Tells`** — what the steps of a program do to its counts and to its notifications.
* **`afterChecked_eq`** — what happens to a program stops it only if a notification overruns the clock.
* **`nothing_crashes`** — the same for every run from the start.
* **`longest_stay_crashes`** — a configuration with which the first notification stops the program.
-/

namespace Lookout

open Checked

/-! ## What the steps of a program do to its counts -/

namespace World

/-- How many outcomes have arrived that no page has looked at. -/
def unread (w : World) : Nat := (w.bindings.map (·.inbox.length)).sum

/-- No page waits for more than `m` fetches. -/
def Waiting (m : Nat) (w : World) : Prop := ∀ b ∈ w.bindings, b.foregroundInFlight ≤ m

/-- One binding that changes makes the sum grow by no more than it grows itself. -/
theorem sum_modify_le {l : List Binding} {f : Binding → Binding} {size : Binding → Nat} {k : Nat}
    (h : ∀ b, size (f b) ≤ size b + k) (n : Nat) :
    ((l.modify n f).map size).sum ≤ (l.map size).sum + k := by
  cases hb : l[n]? with
  | none =>
    rw [List.modify_eq_self (List.getElem?_eq_none_iff.1 hb)]
    exact Nat.le_add_right _ _
  | some b =>
    have hsum := sum_modify hb f size
    have hle := h b
    omega

theorem forall_mem_modify {l : List Binding} {n : Nat} {f : Binding → Binding} {P Q : Binding → Prop}
    (same : ∀ b ∈ l, P b → Q b) (changed : ∀ b ∈ l, P b → Q (f b)) (h : ∀ b ∈ l, P b) :
    ∀ b ∈ l.modify n f, Q b := by
  intro b hb
  obtain ⟨i, hi⟩ := List.mem_iff_getElem?.1 hb
  rw [List.getElem?_modify] at hi
  obtain ⟨c, hc, rfl⟩ := Option.map_eq_some_iff.1 hi
  have hmem := List.mem_of_getElem? hc
  split
  · exact changed c hmem (h c hmem)
  · exact same c hmem (h c hmem)

end World

/-- What some steps at a moment do to the counts of a world and its notifications: they tell at most `k`
things more than have arrived unread, and let pages wait for at most `k` fetches more; a notification that
overruns the clock is one that was made at this moment. -/
structure Tells (now k : Nat) (w v : World) (q r : NotificationQueue) : Prop where
  told : r.nextId + v.unread ≤ q.nextId + w.unread + k
  waiting (m : Nat) : 1 ≤ m → w.Waiting m → v.Waiting (m + k)
  stay : r.stay = q.stay
  kept : q.overrun = true → r.overrun = true
  overrun : r.overrun = true →
    q.overrun = true ∨ NotificationQueue.endOfClock ≤ now * Duration.nanosPerMilli + q.stay.nanos

namespace Tells

open World

variable {now k l : Nat} {w v u : World} {q r s : NotificationQueue}

theorem refl (now : Nat) (w : World) (q : NotificationQueue) : Tells now 0 w w q q :=
  ⟨Nat.le_refl _, fun _ _ h => h, rfl, id, .inl⟩

theorem trans (h : Tells now k w v q r) (h' : Tells now l v u r s) : Tells now (k + l) w u q s := by
  refine ⟨?_, ?_, h'.stay.trans h.stay, h'.kept ∘ h.kept, ?_⟩
  · have := h.told
    have := h'.told
    omega
  · intro m pos hm
    rw [← Nat.add_assoc]
    exact h'.waiting _ (Nat.le_add_right_of_le pos) (h.waiting m pos hm)
  · intro hs
    rcases h'.overrun hs with hr | hlate
    · exact h.overrun hr
    · exact .inr (h.stay ▸ hlate)

theorem mono (h : Tells now k w v q r) (le : k ≤ l) : Tells now l w v q r :=
  ⟨Nat.le_trans h.told (Nat.add_le_add_left le _),
    fun m pos hm b hb => Nat.le_trans (h.waiting m pos hm b hb) (Nat.add_le_add_left le _),
    h.stay, h.kept, h.overrun⟩

/-- A change of the world that tells nothing. -/
theorem quiet (unread : v.unread ≤ w.unread + k)
    (waiting : ∀ m, 1 ≤ m → w.Waiting m → v.Waiting (m + k)) : Tells now k w v q q :=
  ⟨Nat.le_trans (Nat.add_le_add_left unread _) (Nat.le_of_eq (Nat.add_assoc _ _ _).symm), waiting, rfl, id,
    .inl⟩

/-- Notifications that leave tell nothing. -/
theorem leave (items : List Notification) : Tells now 0 w w q { q with items := items } :=
  ⟨Nat.le_refl _, fun _ _ h => h, rfl, id, .inl⟩

theorem push (message : String) (kind : NotificationKind) (createdAt : Int) :
    Tells now 1 w w q (q.push message kind now createdAt) := by
  refine ⟨?_, ?_, rfl, fun h => NotificationQueue.overrun_push h message kind now createdAt, ?_⟩
  · rw [NotificationQueue.push_nextId]
    omega
  · intro m _ hm b hb
    exact Nat.le_succ_of_le (hm b hb)
  · intro h
    simpa [NotificationQueue.push] using h

theorem pushErrors (createdAt : Int) (messages : List String) :
    Tells now messages.length w w q (q.pushErrors now createdAt messages) := by
  induction messages generalizing q with
  | nil => exact refl now w q
  | cons m rest ih =>
    rw [List.length_cons, Nat.add_comm]
    exact (push m .error createdAt).trans ih

theorem mount (policy : Fetch.Policy) (sections : List Section) :
    Tells now 0 w (w.mount policy sections) q q := by
  refine quiet ?_ ?_
  · simp [World.unread, Binding.mounted]
  · intro m pos hm b hb
    rw [bindings_mount] at hb
    rcases List.mem_append.1 hb with hb | hb
    · exact hm b hb
    · rw [List.mem_singleton.1 hb, Binding.mounted]
      split
      · exact Nat.zero_le _
      · exact pos

theorem unmount (n : Nat) : Tells now 0 w (w.unmount n) q q := by
  refine quiet ?_ ?_
  · rw [World.unread, bindings_unmount]
    exact sum_modify_le (k := 0) (fun b => Nat.zero_le _) n
  · intro m _ hm
    rw [World.Waiting, bindings_unmount]
    exact forall_mem_modify (fun _ _ h => h) (fun _ _ h => h) hm

theorem refresh (n : Nat) : Tells now 1 w (w.refresh n) q q := by
  rcases refresh_cases w n with ⟨heq, -⟩ | ⟨m, -, -, heq⟩
  · rw [heq]
    exact (refl now w q).mono (Nat.zero_le 1)
  · have hbindings : (w.refresh n).bindings = w.bindings.modify n Binding.refreshed := by
      rw [heq]
      exact bindings_modify fun _ => rfl
    refine quiet ?_ ?_
    · rw [World.unread, hbindings]
      exact sum_modify_le (fun b => Nat.le_succ _) n
    · intro m _ hm
      rw [World.Waiting, hbindings]
      exact forall_mem_modify (fun _ _ h => Nat.le_succ_of_le h) (fun _ _ h => Nat.succ_le_succ h) hm

theorem foregroundInFlight_poll_le (b : Binding) : b.poll.foregroundInFlight ≤ b.foregroundInFlight := by
  rw [Binding.poll, Binding.foregroundInFlight_foldl]
  exact Nat.sub_le _ _

theorem inbox_poll (b : Binding) : b.poll.inbox = [] := by
  rw [Binding.poll, Binding.inbox_foldl]

/-- A page that looks at what has arrived tells no more than that. -/
theorem report (n : Nat) : Tells w.now 0 w (w.report n q).1 q (w.report n q).2 := by
  have hworld := report_fst w n q
  have hwaiting (m : Nat) (hm : w.Waiting m) : (w.poll n).Waiting m := by
    rw [World.Waiting, bindings_poll]
    exact forall_mem_modify (fun _ _ h => h)
      (fun b _ h => Nat.le_trans (foregroundInFlight_poll_le b) h) hm
  cases hb : w.binding? n with
  | none =>
    have hreport : w.report n q = (w, q) := by simp only [World.report, hb]
    rw [hreport]
    exact refl w.now w q
  | some b =>
    have hqueue : (w.report n q).2 = q.pushErrors w.now w.wall b.announcements := by
      simp only [World.report, hb]
      rfl
    rw [hworld, hqueue]
    have hpush : Tells w.now b.announcements.length w w q
        (q.pushErrors w.now w.wall b.announcements) :=
      pushErrors w.wall b.announcements
    refine ⟨?_, fun m _ hm => hwaiting m hm, hpush.stay, hpush.kept, hpush.overrun⟩
    have hsum := sum_modify ((binding?_eq w n).symm.trans hb) Binding.poll (·.inbox.length)
    have hlength : b.announcements.length ≤ b.inbox.length := List.length_filterMap_le _ _
    have htold := hpush.told
    rw [inbox_poll, ← bindings_poll] at hsum
    simp only [World.unread, List.length_nil] at hsum htold ⊢
    omega

/-- What happens without the pages brings one outcome at most. -/
theorem outside {m : Move} (h : m.isOfPage = false) : Tells now 1 w (w.move m) q q := by
  have hbindings : (w.move m).bindings = w.bindings ∨
      ∃ n o, (w.move m).bindings = w.bindings.modify n (·.receive o) := by
    cases m with
    | mount | refresh | poll | unmount => cases h
    | goOn task =>
      rcases (turn_runTask w task).ends_or with hnone | ⟨x, result, hends⟩
      · exact .inl hnone.bindings
      · exact .inr ⟨_, _, hends.bindings⟩
    | clock | calendar | line | serve | disturb => exact .inl rfl
  rcases hbindings with heq | ⟨n, o, heq⟩
  · refine quiet ?_ ?_
    · rw [World.unread, heq]
      exact Nat.le_succ _
    · intro m _ hm
      rw [World.Waiting, heq]
      exact fun b hb => Nat.le_succ_of_le (hm b hb)
  · refine quiet ?_ ?_
    · rw [World.unread, heq]
      refine sum_modify_le (fun b => ?_) n
      unfold Binding.receive
      split
      · rw [List.length_append]
        exact Nat.le_refl _
      · exact Nat.le_succ _
    · intro m _ hm
      rw [World.Waiting, heq]
      refine forall_mem_modify (fun _ _ h => Nat.le_succ_of_le h) (fun b _ h => ?_) hm
      unfold Binding.receive
      split <;> exact Nat.le_succ_of_le h

end Tells

namespace App

/-! ## The counts of a program -/

/-- What some steps of a program do to its counts. -/
abbrev TellsAtMost (k : Nat) (a b : App) : Prop :=
  Tells a.world.now k a.world b.world a.notifications b.notifications

variable {a : App} {n : Nat}

theorem tells_openPage (a : App) (r : Resource) : TellsAtMost 0 a (a.openPage r) := by
  rw [openPage_eq]
  exact Tells.mount r.policy r.sections

theorem tells_openRoot (a : App) (r : Resource) : TellsAtMost 0 a (a.openRoot r) := by
  -- The pages go one after the other, the one on top first.
  have hclose : ∀ (stack : List Page) (w : World),
      Tells a.world.now 0 w (stack.foldl (fun w p => w.unmount p.binding) w) a.notifications
        a.notifications := by
    intro stack
    induction stack with
    | nil => exact fun w => .refl _ w _
    | cons top rest ih => exact fun w => (Tells.unmount top.binding).trans (ih (w.unmount top.binding))
  rw [openRoot, openPage_eq]
  exact (hclose a.stack a.world).trans (Tells.mount r.policy r.sections)

theorem tells_notify (a : App) (message : String) (kind : NotificationKind) :
    TellsAtMost 1 a (a.notify message kind) := Tells.push message kind a.world.wall

theorem tells_execute (a : App) (command : String) : TellsAtMost 1 a (a.execute command) := by
  have hrefl : TellsAtMost 1 a a := (Tells.refl _ _ _).mono (Nat.zero_le 1)
  unfold execute
  split
  · exact hrefl
  · split
    · exact hrefl
    · split
      · exact (tells_openRoot a _).mono (Nat.zero_le 1)
      · exact tells_notify a _ _

theorem tells_perform (a : App) (top : Page) (action : PageAction) :
    TellsAtMost 1 a (a.perform top action) := by
  have hrefl : TellsAtMost 1 a a := (Tells.refl _ _ _).mono (Nat.zero_le 1)
  cases action with
  | none => exact hrefl
  | refresh => exact Tells.refresh top.binding
  | back =>
    simp only [perform, goBack]
    split
    · exact (Tells.unmount _).mono (Nat.zero_le 1)
    · exact hrefl
  | visit r => exact (tells_openPage a r).mono (Nat.zero_le 1)

theorem tells_press (a : App) (k : Key) : TellsAtMost 1 a (a.press k) := by
  have hrefl : TellsAtMost 1 a a := (Tells.refl _ _ _).mono (Nat.zero_le 1)
  unfold press
  split
  · exact hrefl
  · split
    · unfold pressPage
      split
      · unfold dismissLatest
        split
        · exact (Tells.leave _).mono (Nat.zero_le 1)
        · exact hrefl
      · split
        · exact hrefl
        · next top rest _ => exact tells_perform { a with stack := (top.press k).1 :: rest } _ _
    · next p command _ => exact tells_execute { a with palette := p } command
    · exact hrefl

theorem now_tickPage (p : Page) (w : World) (q : NotificationQueue) : (tickPage p w q).2.1.now = w.now := by
  rw [(tickPage_eq p w q).2, World.move, World.report_fst]
  rfl

theorem now_tickAll (stack : List Page) (w : World) (q : NotificationQueue) :
    (tickAll stack w q).2.1.now = w.now := by
  induction stack with
  | nil => rfl
  | cons p below ih => exact (now_tickPage p _ _).trans ih

theorem tells_tickPage (p : Page) (w : World) (q : NotificationQueue) :
    Tells w.now 0 w (tickPage p w q).2.1 q (tickPage p w q).2.2 := by
  unfold tickPage
  split
  · exact Tells.refl _ _ _
  · exact Tells.report p.binding

theorem tells_tickAll (stack : List Page) (w : World) (q : NotificationQueue) :
    Tells w.now 0 w (tickAll stack w q).2.1 q (tickAll stack w q).2.2 := by
  induction stack with
  | nil => exact Tells.refl _ _ _
  | cons p below ih =>
    have hpage := tells_tickPage p (tickAll below w q).2.1 (tickAll below w q).2.2
    rw [now_tickAll] at hpage
    exact ih.trans hpage

theorem tells_after (a : App) (e : Event) : TellsAtMost 1 a (a.after e) := by
  cases e with
  | press k => exact tells_press a k
  | tick =>
    have htick := tells_tickAll a.stack a.world a.notifications
    exact (htick.trans (Tells.leave _)).mono (Nat.zero_le 1)
  | draw width height =>
    have hrefl : TellsAtMost 1 a a := (Tells.refl _ _ _).mono (Nat.zero_le 1)
    simp only [after]
    split
    · next hdraw =>
      rw [(draw_eq hdraw).1]
      exact hrefl
    · exact hrefl
  | outside m h => exact Tells.outside h

/-- The program before it opens its first page. -/
def launching (c : Config) (w : World) : App where
  world := w
  stack := []
  palette := .new (Command.all (Resource.resolve c))
  notifications := .new c.notificationTime
  resources := Resource.resolve c
  title := c.title.getD defaultTitle
  apiUrl := c.api.url
  hasQuit := false

/-- What happens to a program at its start. -/
theorem tells_start (c : Config) (w : World) (page : Option String) :
    TellsAtMost 1 (launching c w) (start c w page) := by
  have hwarned (message : String) (r : Resource) :
      TellsAtMost 1 (launching c w) (((launching c w).notify message .warning).openRoot r) := by
    have hopen := tells_openRoot ((launching c w).notify message .warning) r
    exact (tells_notify (launching c w) message .warning).trans hopen
  unfold start
  dsimp only
  split
  · exact (tells_openRoot (launching c w) _).mono (Nat.zero_le 1)
  · split
    · exact hwarned _ _
    · exact tells_notify (launching c w) _ .warning

/-! ## The steps of a program -/

/-- Tells the user something, in steps that can fail. -/
def notifyChecked (a : App) (message : String) (kind : NotificationKind) : Except Crash App :=
  (a.notifications.pushChecked message kind a.world.now a.world.wall).map fun q =>
    { a with notifications := q }

/-- The program at its start, in steps that can fail. -/
def startChecked (config : Config) (world : World) (page : Option String) : Except Crash App :=
  let a := launching config world
  let name := (page.or config.defaultPage).getD defaultPage
  match a.find? name with
  | some r => .ok (a.openRoot r)
  | none => do
    let a ← a.notifyChecked ("Unknown page '" ++ name ++ "', showing hosting") .warning
    match a.find? defaultPage with
    | some r => .ok (a.openRoot r)
    | none => .ok a

/-- Runs a command, in steps that can fail. -/
def executeChecked (a : App) (command : String) : Except Crash App :=
  if command = "" then .ok a
  else if command = Command.quit.name then .ok { a with hasQuit := true }
  else
    match a.find? command with
    | some r => .ok (a.openRoot r)
    | none => a.notifyChecked ("Unknown command: " ++ command) .warning

/-- A page asks for newer data, in steps that can fail: a live one counts its fetches. -/
def refreshChecked (w : World) (n : Nat) : Except Crash World :=
  match w.binding? n with
  | some b =>
    if b.isMounted then (plus b.foregroundInFlight 1).map fun _ => w.refresh n else .ok (w.refresh n)
  | none => .ok (w.refresh n)

/-- Does what the page on top asks for, in steps that can fail. -/
def performChecked (a : App) (top : Page) : PageAction → Except Crash App
  | .none => .ok a
  | .refresh => (refreshChecked a.world top.binding).map fun w => { a with world := w }
  | .back => .ok a.goBack
  | .visit r => .ok (a.openPage r)

/-- The messages of a chat take in a key, in steps that stop at the ends of the coordinates. -/
def threadPressChecked (p : ThreadPage) (k : Key) : ThreadPage × PageAction :=
  let scroll (n : Nat) : ThreadPage × PageAction := ({ p with scrollBack := n }, .none)
  match k.code with
  | .char 'k' | .up => scroll (stopAt (coordinateValues - 1) (plusCoordinate p.scrollBack 1))
  | .char 'j' | .down => scroll (stopAt 0 (minus p.scrollBack 1))
  | .pageUp => scroll (stopAt (coordinateValues - 1) (plusCoordinate p.scrollBack 10))
  | .pageDown => scroll (stopAt 0 (minus p.scrollBack 10))
  | _ => p.press k

/-- The sections of a snapshot take in a key, in steps that stop at the ends of the coordinates. -/
def sectionsPressChecked (p : SectionsPage) (k : Key) : SectionsPage × PageAction :=
  let scroll (n : Nat) : SectionsPage × PageAction := ({ p with scroll := n }, .none)
  match k.code with
  | .char 'j' | .down => scroll (stopAt (coordinateValues - 1) (plusCoordinate p.scroll 1))
  | .char 'k' | .up => scroll (stopAt 0 (minus p.scroll 1))
  | .pageDown => scroll (stopAt (coordinateValues - 1) (plusCoordinate p.scroll 10))
  | .pageUp => scroll (stopAt 0 (minus p.scroll 10))
  | _ => p.press k

/-- A page takes in a key, in steps that can fail, which are those of its filter if it has one. What a page
selects or scrolls stops at the ends. -/
def pagePressChecked (k : Key) : Page → Except Crash (Page × PageAction)
  | .hosting p => (p.table.filter.pressChecked k).map fun _ => (p.press k).map .hosting id
  | .chatList p => (p.table.filter.pressChecked k).map fun _ => (p.press k).map .chatList id
  | .thread p => .ok ((threadPressChecked p k).map .thread id)
  | .sections p => .ok ((sectionsPressChecked p k).map .sections id)

/-- Takes in a key that the palette has left, in steps that can fail. -/
def pressPageChecked (a : App) (k : Key) : Except Crash App :=
  if !a.isFiltering && k.isCharacter 'x' then .ok a.dismissLatest
  else
    match a.stack with
    | [] => .ok a
    | top :: rest => do
      let pressed ← pagePressChecked k top
      performChecked { a with stack := pressed.1 :: rest } pressed.1 pressed.2

/-- Takes in a key, in steps that can fail. -/
def pressChecked (a : App) (k : Key) : Except Crash App :=
  if k.isCharacter 'c' && k.control then .ok { a with hasQuit := true }
  else do
    match ← a.palette.pressChecked k with
    | (_, .notHandled) => a.pressPageChecked k
    | (p, .submitted command) => executeChecked { a with palette := p } command
    | (p, _) => .ok { a with palette := p }

/-- Applies to a page what its fetches have brought, in steps that can fail. -/
def tickPageChecked (p : Page) (w : World) (q : NotificationQueue) :
    Except Crash (Page × World × NotificationQueue) :=
  match w.binding? p.binding with
  | none => .ok (p, w, q)
  | some b => do
    let q ← q.pushErrorsChecked w.now w.wall b.announcements
    .ok (if b.inbox.isEmpty then p else p.updated b.poll, w.poll p.binding, q)

/-- Applies to the pages of a stack what their fetches have brought, in steps that can fail. -/
def tickAllChecked (w : World) (q : NotificationQueue) :
    List Page → Except Crash (List Page × World × NotificationQueue)
  | [] => .ok ([], w, q)
  | p :: below => do
    let (done, w, q) ← tickAllChecked w q below
    let (p, w, q) ← tickPageChecked p w q
    .ok (p :: done, w, q)

/-- A tick, in steps that can fail. -/
def tickChecked (a : App) : Except Crash App := do
  let (stack, world, q) ← tickAllChecked a.world a.notifications a.stack
  .ok { a with stack := stack, world := world, notifications := q.expire world.now }

/-- What happens to a program, keys and ticks in steps that can fail. -/
def afterChecked (a : App) : Event → Except Crash App
  | .press k => a.pressChecked k
  | .tick => a.tickChecked
  | .draw width height => .ok (a.after (.draw width height))
  | .outside m h => .ok (a.after (.outside m h))

/-- A run from the start, in steps that can fail. -/
def runChecked (config : Config) (world : World) (page : Option String) (events : List Event) :
    Except Crash App := do
  let a ← startChecked config world page
  events.foldlM afterChecked a

/-! ## No step fails -/

/-- The program that some steps lead to, unless one of its notifications overruns the clock. -/
def inTime (a : App) : Except Crash App := a.notifications.inTime a

theorem inTime_of_calm (calm : a.notifications.overrun = false) : a.inTime = .ok a :=
  NotificationQueue.inTime_of_calm calm a

/-- The counts of a program that nothing of what comes next can stop. -/
structure Fits (n : Nat) (a : App) : Prop where
  room : n + 4 < 2 ^ 61
  inputs : InputsHold n a
  commands : a.palette.commands.length < 2 ^ 61
  told : a.notifications.nextId + a.world.unread ≤ n + 2
  waiting : a.world.Waiting (n + 2)

theorem wordSize_eq : wordSize = 8 * 2 ^ 61 := by decide

theorem Fits.inputs_room (h : Fits n a) : 4 * n + 4 < wordSize := by
  have hroom := h.room
  rw [wordSize_eq]
  omega

theorem Fits.told_room (h : Fits n a) : a.notifications.nextId + a.world.unread + 1 < wordSize := by
  have hroom := h.room
  have htold := h.told
  rw [wordSize_eq]
  omega

/-- To tell something stops the program only if it overruns the clock. -/
theorem notifyChecked_eq (calm : a.notifications.overrun = false)
    (room : a.notifications.nextId + 1 < wordSize) (message : String) (kind : NotificationKind) :
    a.notifyChecked message kind = (a.notify message kind).inTime := by
  rw [notifyChecked, NotificationQueue.pushChecked_eq calm room, NotificationQueue.inTime_map]
  rfl

theorem notifications_openRoot (a : App) (r : Resource) :
    (a.openRoot r).notifications = a.notifications := by
  rw [openRoot_eq]

theorem notifications_perform (a : App) (top : Page) (action : PageAction) :
    (a.perform top action).notifications = a.notifications := by
  cases action with
  | none | refresh => rfl
  | back =>
    simp only [perform, goBack]
    split <;> rfl
  | visit r => rw [perform, openPage_eq]

theorem startChecked_eq (c : Config) (w : World) (page : Option String) :
    startChecked c w page = (start c w page).inTime := by
  have hroot {a : App} (calm : a.notifications.overrun = false) (r : Resource) :
      .ok (a.openRoot r) = (a.openRoot r).inTime :=
    (inTime_of_calm (by rw [notifications_openRoot, calm])).symm
  let name := (page.or c.defaultPage).getD defaultPage
  let message := "Unknown page '" ++ name ++ "', showing hosting"
  have hnotify := notifyChecked_eq (a := launching c w) rfl (show 1 + 1 < wordSize by decide) message
    .warning
  have hstart : start c w page = match (launching c w).find? name with
      | some r => (launching c w).openRoot r
      | none =>
        match ((launching c w).notify message .warning).find? defaultPage with
        | some r => ((launching c w).notify message .warning).openRoot r
        | none => (launching c w).notify message .warning := rfl
  rw [startChecked, hstart]
  cases (launching c w).find? name with
  | some r => exact hroot (a := launching c w) rfl r
  | none =>
    show ((launching c w).notifyChecked message .warning >>= _) = _
    rw [hnotify]
    cases hfind : ((launching c w).notify message .warning).find? defaultPage with
    | some r =>
      refine NotificationQueue.inTime_bind (fun h => by rwa [notifications_openRoot]) fun hcalm => ?_
      dsimp only
      rw [hfind]
      exact hroot hcalm r
    | none =>
      refine NotificationQueue.inTime_bind id fun hcalm => ?_
      dsimp only
      rw [hfind]
      exact (inTime_of_calm hcalm).symm

theorem executeChecked_eq (calm : a.notifications.overrun = false)
    (room : a.notifications.nextId + 1 < wordSize) (command : String) :
    a.executeChecked command = (a.execute command).inTime := by
  unfold executeChecked execute
  by_cases hempty : command = ""
  · rw [if_pos hempty, if_pos hempty, inTime_of_calm calm]
  · rw [if_neg hempty, if_neg hempty]
    by_cases hquit : command = Command.quit.name
    · rw [if_pos hquit, if_pos hquit]
      exact (inTime_of_calm (a := { a with hasQuit := true }) calm).symm
    · rw [if_neg hquit, if_neg hquit]
      cases a.find? command with
      | some r => exact (inTime_of_calm (by rw [notifications_openRoot, calm])).symm
      | none => exact notifyChecked_eq calm room _ _

/-- No action of a page stops the program. -/
theorem performChecked_eq (waiting : a.world.Waiting (n + 2)) (room : n + 4 < 2 ^ 61) (top : Page)
    (action : PageAction) : a.performChecked top action = .ok (a.perform top action) := by
  cases action with
  | none | back | visit => rfl
  | refresh =>
    have hrefresh : refreshChecked a.world top.binding = .ok (a.world.refresh top.binding) := by
      unfold refreshChecked
      split
      · next b hb =>
        have hcount : b.foregroundInFlight ≤ n + 2 := by
          rw [World.binding?_eq] at hb
          exact waiting b (List.mem_of_getElem? hb)
        have hroom : b.foregroundInFlight + 1 < wordSize := by
          rw [wordSize_eq]
          omega
        rw [plus_eq hroom]
        split <;> rfl
      · rfl
    rw [performChecked, hrefresh]
    rfl

theorem threadPressChecked_eq (p : ThreadPage) (k : Key) : threadPressChecked p k = p.press k := by
  obtain ⟨code, control, alt, shift⟩ := k
  unfold threadPressChecked ThreadPage.press
  simp only [stopAt_plusCoordinate, stopAt_minus]
  split <;> rfl

theorem sectionsPressChecked_eq (p : SectionsPage) (k : Key) : sectionsPressChecked p k = p.press k := by
  obtain ⟨code, control, alt, shift⟩ := k
  unfold sectionsPressChecked SectionsPage.press
  simp only [stopAt_plusCoordinate, stopAt_minus]
  split <;> rfl

/-- No key stops a page. -/
theorem pagePressChecked_eq {p : Page} (h : ∀ f ∈ p.filter?, f.editor.Holds n)
    (room : 4 * n + 4 < wordSize) (k : Key) : pagePressChecked k p = .ok (p.press k) := by
  cases p with
  | hosting p =>
    rw [pagePressChecked, Filter.pressChecked_eq (h p.table.filter rfl) room]
    rfl
  | chatList p =>
    rw [pagePressChecked, Filter.pressChecked_eq (h p.table.filter rfl) room]
    rfl
  | thread p => rw [pagePressChecked, threadPressChecked_eq]; rfl
  | sections p => rw [pagePressChecked, sectionsPressChecked_eq]; rfl

theorem pressPageChecked_eq (h : Fits n a) (calm : a.notifications.overrun = false) (k : Key) :
    a.pressPageChecked k = (a.pressPage k).inTime := by
  unfold pressPageChecked pressPage
  by_cases hdismiss : (!a.isFiltering && k.isCharacter 'x') = true
  · rw [if_pos hdismiss, if_pos hdismiss]
    refine (inTime_of_calm ?_).symm
    unfold dismissLatest
    split <;> exact calm
  · rw [if_neg hdismiss, if_neg hdismiss]
    cases hstack : a.stack with
    | nil => exact (inTime_of_calm calm).symm
    | cons top rest =>
      have htop := h.inputs.filters top (hstack ▸ List.mem_cons_self)
      let b : App := { a with stack := (top.press k).1 :: rest }
      have hperform := performChecked_eq (a := b) h.waiting h.room (top.press k).1 (top.press k).2
      show (pagePressChecked k top >>= _) = _
      rw [pagePressChecked_eq htop h.inputs_room, ok_bind]
      exact hperform.trans (inTime_of_calm (by rw [notifications_perform]; exact calm)).symm

/-- A key stops the program only if a notification overruns the clock. -/
theorem pressChecked_eq (h : Fits n a) (calm : a.notifications.overrun = false) (k : Key) :
    a.pressChecked k = (a.press k).inTime := by
  have hfew : 2 * a.palette.commands.length + 1 < wordSize := by
    have hcommands := h.commands
    rw [wordSize_eq]
    omega
  have htold := h.told_room
  unfold pressChecked press
  by_cases hquit : (k.isCharacter 'c' && k.control) = true
  · rw [if_pos hquit, if_pos hquit]
    exact (inTime_of_calm (a := { a with hasQuit := true }) calm).symm
  · rw [if_neg hquit, if_neg hquit, Palette.pressChecked_eq h.inputs.palette h.inputs_room hfew, ok_bind]
    obtain ⟨p, result⟩ := a.palette.press k
    cases result with
    | notHandled => exact pressPageChecked_eq h calm k
    | submitted command =>
      have hroom : a.notifications.nextId + 1 < wordSize := by omega
      exact executeChecked_eq (a := { a with palette := p }) calm hroom command
    | cancelled | handled => exact (inTime_of_calm (a := { a with palette := p }) calm).symm

/-- What a page tells as it looks at what has arrived stops the program only if it overruns the clock. -/
theorem tickPageChecked_eq {p : Page} {w : World} {q : NotificationQueue} (calm : q.overrun = false)
    (room : q.nextId + w.unread < wordSize) :
    tickPageChecked p w q = (tickPage p w q).2.2.inTime (tickPage p w q) := by
  unfold tickPageChecked tickPage
  cases hb : w.binding? p.binding with
  | none => exact (NotificationQueue.inTime_of_calm calm _).symm
  | some b =>
    have hreport : w.report p.binding q =
        (w.poll p.binding, q.pushErrors w.now w.wall b.announcements) := by
      simp only [World.report, hb]
      rfl
    have hmessages : b.announcements.length ≤ w.unread := by
      have hsum := World.sum_modify ((World.binding?_eq _ _).symm.trans hb)
        (fun b => { b with inbox := [] }) (·.inbox.length)
      have hlength : b.announcements.length ≤ b.inbox.length := List.length_filterMap_le _ _
      simp only [List.length_nil] at hsum
      rw [World.unread]
      omega
    dsimp only
    rw [NotificationQueue.pushErrorsChecked_eq calm (by omega), hreport]
    exact NotificationQueue.inTime_bind id fun hcalm =>
      (NotificationQueue.inTime_of_calm hcalm _).symm

theorem tickAllChecked_eq {w : World} {q : NotificationQueue} (calm : q.overrun = false)
    (room : q.nextId + w.unread < wordSize) (stack : List Page) :
    tickAllChecked w q stack = (tickAll stack w q).2.2.inTime (tickAll stack w q) := by
  induction stack with
  | nil => exact (NotificationQueue.inTime_of_calm calm _).symm
  | cons p below ih =>
    have hpage := tells_tickPage p (tickAll below w q).2.1 (tickAll below w q).2.2
    rw [tickAllChecked, ih]
    refine NotificationQueue.inTime_bind hpage.kept fun hcalm => ?_
    have hroom := Nat.lt_of_le_of_lt (tells_tickAll below w q).told room
    show (tickPageChecked p (tickAll below w q).2.1 (tickAll below w q).2.2 >>= _) = _
    rw [tickPageChecked_eq hcalm hroom]
    exact NotificationQueue.inTime_bind id fun hcalm =>
      (NotificationQueue.inTime_of_calm hcalm _).symm

/-- What happens to a program stops it only if a notification overruns the clock. -/
theorem afterChecked_eq (h : Fits n a) (calm : a.notifications.overrun = false) (e : Event) :
    a.afterChecked e = (a.after e).inTime := by
  cases e with
  | press k => exact pressChecked_eq h calm k
  | tick =>
    have hroom := Nat.lt_of_succ_lt h.told_room
    rw [afterChecked, tickChecked, tickAllChecked_eq calm hroom]
    exact NotificationQueue.inTime_bind id fun hcalm => (inTime_of_calm hcalm).symm
  | draw width height =>
    refine (inTime_of_calm ?_).symm
    simp only [after]
    split
    · next hdraw =>
      rw [(draw_eq hdraw).1]
      exact calm
    · exact calm
  | outside m hm => exact (inTime_of_calm (a := { a with world := a.world.move m }) calm).symm

/-! ## Runs -/

/-- The counts of a program after a run that is not too long. -/
theorem fits_events (c : Config) (page : Option String) {w : World} (empty : w.mounted = [])
    {events : List Event} (short : events.length + 4 < 2 ^ 61)
    (few : (Resource.resolve c).length + 1 < 2 ^ 61) :
    Fits events.length (events.foldl after (start c w page)) := by
  have hbindings : w.bindings = [] := by rw [World.bindings, empty, List.map_nil]
  have hoffers : Offers (events.foldl after (start c w page)) c := by
    clear short
    induction events using List.reverseRecOn with
    | nil => exact offers_start c w page
    | append_singleton events e ih =>
      rw [List.foldl_concat]
      exact ih.after e
  have hcounts : let a := events.foldl after (start c w page)
      a.notifications.nextId + a.world.unread ≤ events.length + 2 ∧
        a.world.Waiting (events.length + 2) := by
    clear short hoffers
    induction events using List.reverseRecOn with
    | nil =>
      have hstart := tells_start c w page
      refine ⟨?_, ?_⟩
      · have htold := hstart.told
        have hnone : (launching c w).world.unread = 0 := by
          show (w.bindings.map _).sum = 0
          rw [hbindings]
          rfl
        rw [hnone] at htold
        exact htold
      · refine hstart.waiting 1 (Nat.le_refl 1) ?_
        show ∀ b ∈ w.bindings, _
        rw [hbindings]
        exact List.forall_mem_nil _
    | append_singleton events e ih =>
      have hafter := tells_after (events.foldl after (start c w page)) e
      have htold := hafter.told
      have hwaiting := hafter.waiting _ (by omega) ih.2
      rw [List.foldl_concat, List.length_append, List.length_singleton]
      exact ⟨by omega, by rwa [Nat.add_right_comm] at hwaiting⟩
  refine ⟨short, inputs_events c w page events, ?_, hcounts.1, hcounts.2⟩
  rw [hoffers.commands, Command.all, List.length_append, List.length_map]
  exact few

/-- A notification that overruns the clock was made at a moment of the run. -/
theorem exists_of_overrun (c : Config) (page : Option String) (w : World) (events : List Event) :
    let a := events.foldl after (start c w page)
    a.notifications.stay = c.notificationTime ∧ (a.notifications.overrun = true →
      ∃ now, (now = w.now ∨ ∃ before rest, events = before ++ rest ∧
          now = (before.foldl after (start c w page)).world.now) ∧
        NotificationQueue.endOfClock ≤ now * Duration.nanosPerMilli + c.notificationTime.nanos) := by
  induction events using List.reverseRecOn with
  | nil =>
    have hstart := tells_start c w page
    refine ⟨hstart.stay, fun h => ⟨w.now, .inl rfl, ?_⟩⟩
    rcases hstart.overrun h with hbefore | hlate
    · cases hbefore
    · exact hlate
  | append_singleton events e ih =>
    obtain ⟨hstay, hearlier⟩ := ih
    have hafter := tells_after (events.foldl after (start c w page)) e
    rw [List.foldl_concat]
    refine ⟨hafter.stay.trans hstay, fun h => ?_⟩
    rcases hafter.overrun h with hbefore | hlate
    · obtain ⟨now, hnow, hlate⟩ := hearlier hbefore
      refine ⟨now, hnow.imp_right ?_, hlate⟩
      rintro ⟨before, rest, rfl, rfl⟩
      exact ⟨before, rest ++ [e], List.append_assoc .., rfl⟩
    · exact ⟨_, .inr ⟨events, [e], rfl, rfl⟩, hstay ▸ hlate⟩

/-- A run from the start that is not too long stops only if a notification overruns the clock. -/
theorem runChecked_eq (c : Config) (page : Option String) {w : World} (empty : w.mounted = [])
    {events : List Event} (short : events.length + 4 < 2 ^ 61)
    (few : (Resource.resolve c).length + 1 < 2 ^ 61) :
    runChecked c w page events = (events.foldl after (start c w page)).inTime := by
  induction events using List.reverseRecOn with
  | nil =>
    rw [runChecked, startChecked_eq]
    exact NotificationQueue.inTime_bind id fun hcalm => (inTime_of_calm hcalm).symm
  | append_singleton events e ih =>
    rw [List.length_append, List.length_singleton] at short
    have hbefore := ih (by omega)
    have hfits : Fits events.length (events.foldl after (start c w page)) :=
      fits_events c page empty (by omega) few
    have hrun : runChecked c w page (events ++ [e]) =
        (runChecked c w page events >>= fun a => a.afterChecked e) := by
      simp only [runChecked, List.foldlM_append, List.foldlM_cons, List.foldlM_nil, bind_assoc, bind_pure]
    rw [hrun, hbefore, List.foldl_concat]
    exact NotificationQueue.inTime_bind (tells_after _ e).kept fun hcalm => afterChecked_eq hfits hcalm e

/-- In every run from the start that is not too long, whatever happens to the program stops it only if a
notification overruns the clock, and none does if at every moment of the run a notification would leave
before the end of the clock. -/
theorem nothing_crashes (c : Config) (page : Option String) (calendar : Int) (space : String)
    (storage : Cache.Storage) (servers : Servers) {events : List Event}
    (short : events.length + 4 < 2 ^ 61) (few : (Resource.resolve c).length + 1 < 2 ^ 61) :
    let w := World.start calendar space storage servers
    let final := events.foldl after (start c w page)
    runChecked c w page events =
        (if final.notifications.overrun then .error .clock else .ok final) ∧
      ((∀ before rest, events = before ++ rest →
        (before.foldl after (start c w page)).world.now * Duration.nanosPerMilli +
          c.notificationTime.nanos < NotificationQueue.endOfClock) →
        runChecked c w page events = .ok final) := by
  intro w final
  have hrun : runChecked c w page events = final.inTime := runChecked_eq c page rfl short few
  refine ⟨hrun, fun inTime => ?_⟩
  have hcalm : final.notifications.overrun = false := by
    rw [← Bool.not_eq_true]
    intro hoverrun
    obtain ⟨now, hnow, hlate⟩ := (exists_of_overrun c page w events).2 hoverrun
    rcases hnow with rfl | ⟨before, rest, hsplit, rfl⟩
    · -- The clock starts at zero, and no moment of the run is earlier.
      have hfirst := inTime [] events rfl
      have hzero : w.now * Duration.nanosPerMilli = 0 := Nat.zero_mul _
      omega
    · have hearly := inTime before rest hsplit
      omega
  rw [hrun, inTime_of_calm hcalm]

/-- A run in which a text is typed and deleted and the palette is used, with the warning about an unknown
page on display. -/
def busyRun : List Event :=
  [.press (.plain '/'), .press (.plain 'ж'), .press (.plain ' '), .press (.plain 'я'),
    .press { code := .char 'w', control := true }, .press { code := .left }, .press { code := .delete },
    .tick, .press { code := .escape }, .press (.plain ':'), .press { code := .backTab },
    .press { code := .enter }]

/-- The run comes to its end. -/
theorem busy_run_ends :
    busyRun.length + 4 < 2 ^ 61 ∧ (Resource.resolve plainConfig).length + 1 < 2 ^ 61 ∧
    (busyRun.foldl after (start plainConfig silentWorld (some "nope"))).hasQuit = true ∧
    runChecked plainConfig silentWorld (some "nope") busyRun =
      .ok (busyRun.foldl after (start plainConfig silentWorld (some "nope"))) := by
  have hshort : busyRun.length + 4 < 2 ^ 61 := by decide
  have hfew : (Resource.resolve plainConfig).length + 1 < 2 ^ 61 := by decide +kernel
  have hcalm :
      (busyRun.foldl after (start plainConfig silentWorld (some "nope"))).notifications.overrun = false := by
    decide +kernel
  refine ⟨hshort, hfew, by decide +kernel, ?_⟩
  have hrun := (nothing_crashes plainConfig (some "nope") 0 "" .empty (fun _ _ => ⟨1, .ok .null⟩)
    hshort hfew).1
  rw [silentWorld] at hcalm ⊢
  rwa [hcalm] at hrun

/-- A configuration that lets notifications stay for as many seconds as it can say. -/
def longestStay : String :=
  "api:\n  url: https://crm.example.com/api\nnotifications:\n  ttl_secs: 18446744073709551615\n"

/-- It is accepted, but the first notification stops the program. -/
theorem longest_stay_crashes : ∃ c, Config.ofText longestStay = .ok c ∧
    runChecked c silentWorld (some "nope") [] = .error .clock := by
  have hread : (Config.ofText longestStay).toOption.any (fun c =>
      (start c silentWorld (some "nope")).notifications.overrun &&
        decide ((Resource.resolve c).length + 1 < 2 ^ 61)) = true := by
    decide +kernel
  obtain ⟨c, hc, hfacts⟩ := Config.exists_of_any hread
  obtain ⟨hoverrun, hfew⟩ := Bool.and_eq_true_iff.1 hfacts
  refine ⟨c, hc, ?_⟩
  rw [runChecked_eq c (some "nope") (w := silentWorld) rfl (by decide) (of_decide_eq_true hfew)]
  show (if (start c silentWorld (some "nope")).notifications.overrun then _ else _) = _
  rw [if_pos hoverrun]

end App

end Lookout
