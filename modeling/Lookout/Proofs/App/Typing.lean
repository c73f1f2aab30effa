import Lookout.Proofs.App.Programs
import Lookout.Proofs.Input.Editing

/-!
# Typing into the inputs of a program

The palette and the filters of the pages are the inputs of a program. In every run their cursors stand
inside their texts, which grow by at most one character for everything that happens. While the filter of
the page on top is open and the palette is not, every character is typed into the filter, apart from the
colon: that one opens the palette.

* **`inputs_events`** — the inputs of a program after a run.
* **`typed_into_filter`** — what a character does while a filter is open.
* **`colon_not_typed`** — the colon, which does not get into a filter.
-/

namespace Lookout

/-- A key that a filter leaves to others leaves the filter as it is. -/
theorem Filter.press_notHandled {f : Filter} {k : Key} (h : (f.press k).2 = .notHandled) :
    (f.press k).1 = f := by
  unfold press at h ⊢
  split at h
  · split at h <;> cases h
  · next hclosed =>
    split at h
    · cases h
    · next hkey => simp only [hclosed, hkey, Bool.false_eq_true, if_false]

/-- A key does to the filter of a table what the filter makes of it. -/
theorem Table.filter_press (t : Table) (k : Key) : (t.press k).1.filter = (t.filter.press k).1 := by
  unfold press
  split
  · next f heq =>
    have hsame : (t.filter.press k).1 = t.filter := Filter.press_notHandled (by rw [heq])
    have hrows : (t.pressRows k).1.filter = t.filter := by
      unfold pressRows
      split <;> rfl
    rw [heq] at hsame ⊢
    exact hrows.trans hsame.symm
  · next heq => rw [heq]

/-- Drawing leaves the filter of a table as it is. -/
theorem Table.filter_draw (t : Table) (c : Canvas) (r : Rect) (heading : String) (view : TableView) :
    (t.draw c r heading view).1.filter = t.filter := by
  unfold draw
  dsimp only
  split <;> rfl

namespace Page

/-- The filter of a page that has one. -/
def filter? : Page → Option Filter
  | .hosting p => some p.table.filter
  | .chatList p => some p.table.filter
  | .thread _ => none
  | .sections _ => none

/-- The page with another filter, if it has one. -/
def withFilter (f : Filter) : Page → Page
  | .hosting p => .hosting { p with table := { p.table with filter := f } }
  | .chatList p => .chatList { p with table := { p.table with filter := f } }
  | .thread p => .thread p
  | .sections p => .sections p

@[simp] theorem filter?_updated (b : Binding) (p : Page) : (p.updated b).filter? = p.filter? := by
  cases p <;> rfl

/-- A page that is mounted filters nothing. -/
theorem filter?_mounted {r : Resource} {n : Nat} {b : Binding} {f : Filter}
    (h : f ∈ (mounted r n b).filter?) : f = .empty := by
  unfold mounted at h
  split at h <;> simp_all [filter?, Table.new]

/-- A key does to the filter of a page what the filter makes of it. -/
theorem filter?_press (p : Page) (k : Key) :
    (p.press k).1.filter? = p.filter?.map fun f => (f.press k).1 := by
  cases p with
  | hosting p =>
    have hpress : (p.press k).1.table = (p.table.press k).1 := by
      unfold HostingPage.press
      dsimp only
      split <;> rfl
    show some (p.press k).1.table.filter = some (p.table.filter.press k).1
    rw [hpress, Table.filter_press]
  | chatList p =>
    have hpress : (p.press k).1.table = (p.table.press k).1 := by
      unfold ChatListPage.press
      dsimp only
      split <;> rfl
    show some (p.press k).1.table.filter = some (p.table.filter.press k).1
    rw [hpress, Table.filter_press]
  | thread p =>
    show (Page.thread (p.press k).1).filter? = none
    rfl
  | sections p =>
    show (Page.sections (p.press k).1).filter? = none
    rfl

/-- An open filter gets every key of its page, and the page asks for nothing. -/
theorem press_filtering {p : Page} {f : Filter} (filter : p.filter? = some f) (isOpen : f.isOpen = true)
    (k : Key) : p.press k = (p.withFilter (f.press k).1, .none) := by
  cases p with
  | hosting p =>
    obtain rfl := Option.some.inj filter
    have hpress := Table.press_filtering isOpen k
    show (p.press k).map Page.hosting id = _
    rw [HostingPage.press, hpress]
    rfl
  | chatList p =>
    obtain rfl := Option.some.inj filter
    have hpress := Table.press_filtering isOpen k
    show (p.press k).map Page.chatList id = _
    rw [ChatListPage.press, hpress]
    rfl
  | thread | sections => cases filter

/-- Drawing leaves the filter of a page as it is. -/
theorem filter?_draw {p q : Page} {b : Binding} {c d : Canvas} {r : Rect}
    (h : p.draw b c r = .ok (q, d)) : q.filter? = p.filter? := by
  cases p with
  | hosting p =>
    obtain ⟨⟨p', c'⟩, hdraw, heq⟩ := ok_of_map h
    cases heq
    obtain ⟨c'', -, heq⟩ := ok_of_map hdraw
    cases heq
    exact congrArg some (Table.filter_draw ..)
  | chatList p =>
    obtain ⟨⟨p', c'⟩, hdraw, heq⟩ := ok_of_map h
    cases heq
    unfold ChatListPage.draw at hdraw
    obtain ⟨unread, -, hdraw⟩ := ok_of_bind hdraw
    obtain ⟨c'', -, heq⟩ := ok_of_map hdraw
    cases heq
    exact congrArg some (Table.filter_draw ..)
  | thread p =>
    obtain ⟨⟨p', c'⟩, -, heq⟩ := ok_of_map h
    cases heq
    rfl
  | sections p =>
    obtain ⟨⟨p', c'⟩, -, heq⟩ := ok_of_map h
    cases heq
    rfl

end Page

namespace App

/-! ## The inputs in a run -/

/-- The filters of pages hold at most `n` characters each. -/
def FiltersHold (n : Nat) (stack : List Page) : Prop := ∀ p ∈ stack, ∀ f ∈ p.filter?, f.editor.Holds n

/-- The inputs of a program hold at most `n` characters each, with their cursors inside. -/
structure InputsHold (n : Nat) (a : App) : Prop where
  palette : a.palette.Holds n
  filters : FiltersHold n a.stack

variable {n : Nat} {a : App}

theorem FiltersHold.mono {stack : List Page} (h : FiltersHold n stack) {m : Nat} (le : n ≤ m) :
    FiltersHold m stack := fun p hp f hf => (h p hp f hf).mono le

theorem InputsHold.mono (h : InputsHold n a) {m : Nat} (le : n ≤ m) : InputsHold m a :=
  ⟨h.palette.mono le, h.filters.mono le⟩

/-- A page that opens filters nothing. -/
theorem InputsHold.openPage (h : InputsHold n a) (r : Resource) : InputsHold n (a.openPage r) := by
  rw [openPage_eq]
  refine ⟨h.palette, ?_⟩
  intro p hp f hf
  rcases List.mem_cons.1 hp with rfl | hp
  · rw [Page.filter?_mounted hf]
    exact LineEditor.holds_empty n
  · exact h.filters p hp f hf

theorem InputsHold.openRoot (h : InputsHold n a) (r : Resource) : InputsHold n (a.openRoot r) := by
  have hclosed : InputsHold n a.closeAll := ⟨h.palette, List.forall_mem_nil _⟩
  exact hclosed.openPage r

theorem InputsHold.execute (h : InputsHold n a) (command : String) :
    InputsHold n (a.execute command) := by
  unfold App.execute
  split
  · exact h
  · split
    · exact ⟨h.palette, h.filters⟩
    · split
      · exact h.openRoot _
      · exact ⟨h.palette, h.filters⟩

theorem InputsHold.perform (h : InputsHold n a) (top : Page) (action : PageAction) :
    InputsHold n (a.perform top action) := by
  cases action with
  | none => exact h
  | refresh => exact ⟨h.palette, h.filters⟩
  | back =>
    simp only [App.perform, goBack]
    split
    · next hstack =>
      refine ⟨h.palette, fun p hp => h.filters p ?_⟩
      rw [hstack]
      exact List.mem_cons_of_mem _ hp
    · exact ⟨h.palette, h.filters⟩
  | visit r => exact h.openPage r

theorem InputsHold.pressPage (h : InputsHold n a) (k : Key) : InputsHold (n + 1) (a.pressPage k) := by
  have hmono := h.mono (Nat.le_succ n)
  unfold App.pressPage
  split
  · unfold dismissLatest
    split <;> exact ⟨hmono.palette, hmono.filters⟩
  · split
    · exact hmono
    · next top rest hstack =>
      dsimp only
      apply InputsHold.perform
      refine ⟨hmono.palette, fun p hp f hf => ?_⟩
      rcases List.mem_cons.1 hp with rfl | hp
      · rw [Page.filter?_press] at hf
        obtain ⟨g, hg, rfl⟩ := Option.map_eq_some_iff.1 hf
        refine Filter.holds_press (h.filters top ?_ g hg) k
        rw [hstack]
        exact List.mem_cons_self
      · refine hmono.filters p ?_ f hf
        rw [hstack]
        exact List.mem_cons_of_mem _ hp

theorem InputsHold.press (h : InputsHold n a) (k : Key) : InputsHold (n + 1) (a.press k) := by
  have hmono := h.mono (Nat.le_succ n)
  have hpalette := h.palette.press k
  unfold App.press
  split
  · exact ⟨hmono.palette, hmono.filters⟩
  · split
    · exact h.pressPage k
    · next hpress =>
      rw [hpress] at hpalette
      apply InputsHold.execute
      exact ⟨hpalette, hmono.filters⟩
    · next hpress =>
      rw [hpress] at hpalette
      exact ⟨hpalette, hmono.filters⟩

/-- A tick leaves the filters of the pages as they are. -/
theorem filters_tick (a : App) : a.tick.stack.map Page.filter? = a.stack.map Page.filter? := by
  have hpage (p : Page) (w : World) (q : NotificationQueue) :
      (tickPage p w q).1.filter? = p.filter? := by
    unfold tickPage
    split
    · rfl
    · dsimp only
      split
      · rfl
      · exact Page.filter?_updated _ p
  show (a.stack.foldr _ (([] : List Page), a.world, a.notifications)).1.map Page.filter? = _
  induction a.stack with
  | nil => rfl
  | cons p below ih => exact congrArg₂ List.cons (hpage p _ _) ih

/-- Drawing leaves the filters of the pages as they are. -/
theorem filters_draw {drawn : App} {c : Canvas} {width height : Nat}
    (h : a.draw width height = .ok (drawn, c)) :
    drawn.stack.map Page.filter? = a.stack.map Page.filter? := by
  unfold draw at h
  obtain ⟨⟨paged, d⟩, hpage, h⟩ := ok_of_bind h
  obtain ⟨d', -, h⟩ := ok_of_bind h
  cases h
  unfold drawPage at hpage
  split at hpage
  · cases hpage
    rfl
  · next top rest hstack =>
    split at hpage
    · cases hpage
      rfl
    · obtain ⟨⟨top', d''⟩, hdraw, heq⟩ := ok_of_map hpage
      cases heq
      rw [hstack, List.map_cons, List.map_cons, Page.filter?_draw hdraw]

/-- The filters of pages are all that matters. -/
theorem FiltersHold.congr {stack stack' : List Page} (h : FiltersHold n stack)
    (filters : stack'.map Page.filter? = stack.map Page.filter?) : FiltersHold n stack' := by
  intro p hp f hf
  have hmem : p.filter? ∈ stack.map Page.filter? := filters ▸ List.mem_map_of_mem hp
  obtain ⟨q, hq, heq⟩ := List.mem_map.1 hmem
  exact h q hq f (heq ▸ hf)

/-- What happens to a program makes no input longer by more than one character. -/
theorem InputsHold.after (h : InputsHold n a) (e : Event) : InputsHold (n + 1) (a.after e) := by
  have hmono := h.mono (Nat.le_succ n)
  cases e with
  | press k => exact h.press k
  | tick => exact ⟨hmono.palette, hmono.filters.congr (filters_tick a)⟩
  | draw width height =>
    simp only [App.after]
    split
    · next hdraw =>
      refine ⟨?_, hmono.filters.congr (filters_draw hdraw)⟩
      rw [(draw_eq hdraw).1]
      exact hmono.palette
    · exact hmono
  | outside m hm => exact ⟨hmono.palette, hmono.filters⟩

theorem InputsHold.events (h : InputsHold n a) (events : List Event) :
    InputsHold (n + events.length) (events.foldl App.after a) := by
  induction events generalizing n a with
  | nil => exact h
  | cons e events ih =>
    have hrest := ih (h.after e)
    rwa [Nat.add_right_comm] at hrest

theorem inputs_start (c : Config) (w : World) (page : Option String) : InputsHold 0 (start c w page) := by
  have hfirst {a : App} (palette : a.palette = .new (Command.all (Resource.resolve c)))
      (stack : a.stack = []) : InputsHold 0 a := by
    refine ⟨palette ▸ Palette.holds_new 0 _, ?_⟩
    rw [stack]
    exact List.forall_mem_nil _
  unfold start
  dsimp only
  split
  · exact InputsHold.openRoot (hfirst rfl rfl) _
  · split
    · exact InputsHold.openRoot (hfirst rfl rfl) _
    · exact hfirst rfl rfl

/-- The inputs of a program after a run hold at most one character for everything that has happened. -/
theorem inputs_events (c : Config) (w : World) (page : Option String) (events : List Event) :
    InputsHold events.length (events.foldl after (start c w page)) := by
  have h := (inputs_start c w page).events events
  rwa [Nat.zero_add] at h

/-! ## A filter that is open -/

/-- The page on top has a filter that is open. -/
theorem exists_of_isFiltering (h : a.isFiltering = true) :
    ∃ top rest f, a.stack = top :: rest ∧ top.filter? = some f ∧ f.isOpen = true := by
  unfold isFiltering at h
  split at h
  · next top rest hstack =>
    cases top with
    | hosting p => exact ⟨_, rest, _, hstack, rfl, h⟩
    | chatList p => exact ⟨_, rest, _, hstack, rfl, h⟩
    | thread | sections => cases h
  · cases h

/-- In every run from the start: while the palette is closed and the filter of the page on top is open, a
character, with whatever modifiers but Control, is typed into the filter at its cursor, and nothing else
changes. Only the colon is not: it opens the palette, and that is all it does. -/
theorem typed_into_filter (c : Config) (page : Option String) (w : World) (events : List Event) :
    let a := events.foldl after (start c w page)
    a.palette.isOpen = false → a.isFiltering = true →
    ∃ top rest f, a.stack = top :: rest ∧ top.filter? = some f ∧ f.isOpen = true ∧
      ∀ k ch, k.code = .char ch → k.control = false →
        a.press k =
          if ch = ':' then { a with palette := a.palette.reset true }
          else { a with stack := top.withFilter (f.typed ch) :: rest } := by
  intro a closed filtering
  obtain ⟨top, rest, f, hstack, hfilter, hopen⟩ := exists_of_isFiltering filtering
  refine ⟨top, rest, f, hstack, hfilter, hopen, ?_⟩
  intro k ch code plain
  have htop : top ∈ a.stack := by
    rw [hstack]
    exact List.mem_cons_self
  have hinside := ((inputs_events c w page events).filters top htop f hfilter).inside
  have hpage : a.pressPage k = { a with stack := top.withFilter (f.typed ch) :: rest } := by
    simp only [pressPage, filtering, Bool.not_true, Bool.false_and, Bool.false_eq_true, if_false, hstack,
      Page.press_filtering hfilter hopen, Filter.press_char hopen hinside code plain, perform]
  by_cases hcolon : ch = ':'
  · simp only [press, plain, Bool.and_false, Bool.false_eq_true, if_false, Palette.press, closed,
      Key.isCharacter, code, hcolon, decide_true, if_true]
  · have hkey : k.isCharacter ':' = false := by simp [Key.isCharacter, code, hcolon]
    rw [if_neg hcolon, ← hpage]
    simp only [press, plain, Bool.and_false, Bool.false_eq_true, if_false,
      Palette.press_closed closed hkey]

/-- A configuration without pages of its own. -/
def plainConfig : Config where
  api := ⟨"https://crm.example.com/api", .none, 20⟩
  title := none
  defaultPage := none
  notificationSecs := 4
  pages := []

/-- The world in which a program is started that knows no answers. -/
def silentWorld : World := .start 0 "" .empty fun _ _ => ⟨1, .ok .null⟩

/-- A program that has been asked for a page that it does not have, and then for its filter. -/
def filtering : App := [Event.press (.plain '/')].foldl after (start plainConfig silentWorld (some "nope"))

/-- The key that dismisses notifications and one that moves the selection stand in the filter then, and the
warning about the page stays. -/
theorem shortcuts_typed :
    filtering.palette.isOpen = false ∧ filtering.isFiltering = true ∧
    ((filtering.press (.plain 'x')).press (.plain 'j')).stack.map (fun p => p.filter?.map (·.query)) =
      [some ['x', 'j']] ∧
    (filtering.press (.plain 'x')).notifications.items.length = 1 ∧
    ∃ top rest f, filtering.stack = top :: rest ∧ top.filter? = some f ∧ f.isOpen = true ∧
      filtering.press (.plain 'x') = { filtering with stack := top.withFilter (f.typed 'x') :: rest } := by
  have hclosed : filtering.palette.isOpen = false := by decide +kernel
  have hfiltering : filtering.isFiltering = true := by decide +kernel
  obtain ⟨top, rest, f, hstack, hfilter, hopen, hpress⟩ :=
    typed_into_filter plainConfig (some "nope") silentWorld [.press (.plain '/')] hclosed hfiltering
  refine ⟨hclosed, hfiltering, by decide +kernel, by decide +kernel, top, rest, f, hstack, hfilter, hopen,
    ?_⟩
  exact hpress (.plain 'x') 'x' rfl rfl

/-- The colon opens the palette over a filter that is open, and does not get into it. -/
theorem colon_not_typed :
    filtering.palette.isOpen = false ∧ filtering.isFiltering = true ∧
    (filtering.press (.plain ':')).palette.isOpen = true ∧
    (filtering.press (.plain ':')).stack.map (fun p => p.filter?.map (·.query)) = [some []] := by
  decide +kernel

end App

end Lookout
