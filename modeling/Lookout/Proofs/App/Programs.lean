import Lookout.App.Draw
import Lookout.Proofs.World.Reached

/-!
# Reachable programs

What can happen to the program: keys, ticks, drawing, and whatever happens in the world without its
pages. The bindings that are live are at every moment those of the pages on the stack, each page with one
of its own.

* **`Onward.after`** — everything that happens to the program is a run of its world.
* **`Reached.isOpen`** — the live bindings are those of the pages on the stack.
-/

namespace Lookout

/-- The move is one that only a page makes. -/
def Move.isOfPage : Move → Bool
  | .mount _ _ | .refresh _ | .poll _ _ | .unmount _ => true
  | _ => false

/-! ## What stays of a page -/

section Results

variable {α β : Type} {x : Except DrawFault α}

/-- A picture that is drawn on has been drawn before. -/
theorem ok_of_bind {f : α → Except DrawFault β} {y : β} (h : x >>= f = .ok y) :
    ∃ z, x = .ok z ∧ f z = .ok y := by
  cases x with
  | error fault => cases h
  | ok z => exact ⟨z, rfl, h⟩

theorem ok_of_map {f : α → β} {y : β} (h : x.map f = .ok y) : ∃ z, x = .ok z ∧ f z = y := by
  cases x with
  | error fault => cases h
  | ok z =>
    cases h
    exact ⟨z, rfl, rfl⟩

end Results

namespace Page

@[simp] theorem binding_mounted (r : Resource) (n : Nat) (b : Binding) :
    (mounted r n b).binding = n := by
  unfold mounted
  split <;> rfl

/-- What stays of a page for as long as it is open: how it is drawn, its title, the number of its binding,
and the resource whose chats it lists. -/
structure Face where
  kind : PageKind
  title : String
  binding : Nat
  list : Option Resource

/-- What stays of a page. -/
def face : Page → Face
  | .hosting p => ⟨.hosting, p.content.title, p.content.binding, none⟩
  | .chatList p => ⟨.chatList, p.content.title, p.content.binding, some p.resource⟩
  | .thread p => ⟨.chatThread, p.content.title, p.content.binding, none⟩
  | .sections p => ⟨.generic, p.content.title, p.content.binding, none⟩

theorem binding_face (p : Page) : p.face.binding = p.binding := by
  cases p <;> rfl

@[simp] theorem face_updated (b : Binding) (p : Page) : (p.updated b).face = p.face := by
  cases p <;> rfl

/-- Pages of one kind with the same content, and lists of chats of the same resource. -/
inductive SameContent : Page → Page → Prop
  | hosting {p q : HostingPage} (content : q.content = p.content) : SameContent (.hosting p) (.hosting q)
  | chatList {p q : ChatListPage} (resource : q.resource = p.resource) (content : q.content = p.content) :
      SameContent (.chatList p) (.chatList q)
  | thread {p q : ThreadPage} (content : q.content = p.content) : SameContent (.thread p) (.thread q)
  | sections {p q : SectionsPage} (content : q.content = p.content) :
      SameContent (.sections p) (.sections q)

theorem SameContent.face {p q : Page} (h : SameContent p q) : q.face = p.face := by
  cases h <;> simp [Page.face, *]

/-- A key leaves a page its content. -/
theorem sameContent_press (p : Page) (k : Key) : SameContent p (p.press k).1 := by
  cases p with
  | hosting p =>
    show SameContent (.hosting p) (.hosting (p.press k).1)
    unfold HostingPage.press
    dsimp only
    split <;> exact .hosting rfl
  | chatList p =>
    show SameContent (.chatList p) (.chatList (p.press k).1)
    unfold ChatListPage.press
    dsimp only
    split <;> exact .chatList rfl rfl
  | thread p =>
    show SameContent (.thread p) (.thread (p.press k).1)
    unfold ThreadPage.press
    dsimp only
    split <;> exact .thread rfl
  | sections p =>
    show SameContent (.sections p) (.sections (p.press k).1)
    unfold SectionsPage.press
    dsimp only
    split <;> exact .sections rfl

/-- Drawing leaves a page its content. -/
theorem sameContent_draw {p q : Page} {b : Binding} {c d : Canvas} {r : Rect}
    (h : p.draw b c r = .ok (q, d)) : SameContent p q := by
  cases p with
  | hosting p =>
    obtain ⟨⟨p', c'⟩, hdraw, heq⟩ := ok_of_map h
    cases heq
    obtain ⟨c'', -, heq⟩ := ok_of_map hdraw
    cases heq
    exact .hosting rfl
  | chatList p =>
    obtain ⟨⟨p', c'⟩, hdraw, heq⟩ := ok_of_map h
    cases heq
    unfold ChatListPage.draw at hdraw
    obtain ⟨unread, -, hdraw⟩ := ok_of_bind hdraw
    obtain ⟨c'', -, heq⟩ := ok_of_map hdraw
    cases heq
    exact .chatList rfl rfl
  | thread p =>
    obtain ⟨⟨p', c'⟩, hdraw, heq⟩ := ok_of_map h
    cases heq
    unfold ThreadPage.draw at hdraw
    dsimp only at hdraw
    split at hdraw
    · cases hdraw
      exact .thread rfl
    · split at hdraw
      · cases hdraw
        exact .thread rfl
      · obtain ⟨c'', -, heq⟩ := ok_of_map hdraw
        cases heq
        exact .thread rfl
  | sections p =>
    obtain ⟨⟨p', c'⟩, hdraw, heq⟩ := ok_of_map h
    cases heq
    unfold SectionsPage.draw at hdraw
    dsimp only at hdraw
    split at hdraw
    · obtain ⟨c'', -, heq⟩ := ok_of_map hdraw
      cases heq
      exact .sections rfl
    · cases hdraw
      exact .sections rfl

/-- A key leaves a page what stays of it. -/
theorem face_press (p : Page) (k : Key) : (p.press k).1.face = p.face := (sameContent_press p k).face

/-- Drawing leaves a page what stays of it. -/
theorem face_draw {p q : Page} {b : Binding} {c d : Canvas} {r : Rect}
    (h : p.draw b c r = .ok (q, d)) : q.face = p.face := (sameContent_draw h).face

end Page

namespace App

/-- What can happen to the program: a key, a tick, drawing on a screen of a size, or something in the
world that is none of its pages' doing. -/
inductive Event
  | press (k : Key)
  | tick
  | draw (width height : Nat)
  | outside (m : Move) (h : m.isOfPage = false)

/-- A task goes on. -/
def Event.goOn (task : Task) : Event := .outside (.goOn task) rfl

/-- The program after something has happened to it. A picture that cannot be drawn leaves it as it is. -/
def after (a : App) : Event → App
  | .press k => a.press k
  | .tick => a.tick
  | .draw width height =>
    match a.draw width height with
    | .ok (drawn, _) => drawn
    | .error _ => a
  | .outside m _ => { a with world := a.world.move m }

/-- The numbers of the bindings of the pages on the stack. -/
def openBindings (a : App) : List Nat := a.stack.map (·.binding)

/-- What stays of the pages on the stack tells their bindings. -/
theorem openBindings_of_faces {a b : App} (h : b.stack.map Page.face = a.stack.map Page.face) :
    b.openBindings = a.openBindings := by
  have hbindings := congrArg (List.map Page.Face.binding) h
  simp only [List.map_map, Function.comp_def, Page.binding_face] at hbindings
  exact hbindings

/-- The live bindings are those of the pages on the stack, and each page has one of its own. -/
structure IsOpen (a : App) : Prop where
  reached : World.Reached a.world
  nodup : a.openBindings.Nodup
  live : ∀ n, a.world.isLive n = true ↔ n ∈ a.openBindings

/-- A program goes on to another: its world by a run, and its pages with their bindings. -/
structure Onward (a b : App) : Prop where
  run : ∃ moves, b.world = a.world.run moves
  isOpen : IsOpen a → IsOpen b

namespace Onward

theorem refl (a : App) : Onward a a := ⟨⟨[], rfl⟩, id⟩

theorem trans {a b c : App} (h : Onward a b) (h' : Onward b c) : Onward a c := by
  obtain ⟨moves, hmoves⟩ := h.run
  obtain ⟨more, hmore⟩ := h'.run
  exact ⟨⟨moves ++ more, by rw [hmore, hmoves, World.run_append]⟩, h'.isOpen ∘ h.isOpen⟩

/-- What the world and the pages' bindings do not depend on. -/
theorem congr {a b c : App} (h : Onward a b) (world : c.world = b.world)
    (bindings : c.openBindings = b.openBindings) : Onward a c := by
  obtain ⟨moves, hmoves⟩ := h.run
  refine ⟨⟨moves, world.trans hmoves⟩, fun o => ?_⟩
  obtain ⟨reached, nodup, live⟩ := h.isOpen o
  exact ⟨world ▸ reached, bindings ▸ nodup, fun n => by rw [world, bindings]; exact live n⟩

/-- A move that neither mounts nor unmounts leaves the pages their bindings. -/
theorem move (a : App) {m : Move} (stays : m.comesOrGoes = false) :
    Onward a { a with world := a.world.move m } := by
  refine ⟨⟨[m], rfl⟩, fun o => ⟨o.reached.move m, o.nodup, fun n => ?_⟩⟩
  have hlive : (a.world.move m).isLive n = a.world.isLive n := by
    rw [o.reached.isLive_move]
    cases m with
    | mount | unmount => cases stays
    | refresh | poll | goOn | clock | calendar | line | serve | disturb => rfl
  rw [hlive]
  exact o.live n

/-- So does a run of such moves. -/
theorem stays (a : App) {moves : List Move} (stays : ∀ m ∈ moves, m.comesOrGoes = false) :
    Onward a { a with world := a.world.run moves } := by
  induction moves using List.reverseRecOn with
  | nil => exact refl a
  | append_singleton moves m ih =>
    have hmoves := ih fun k hk => stays k (List.mem_append_left _ hk)
    have hlast := stays m (List.mem_append_right _ (List.mem_singleton_self m))
    rw [World.run_concat]
    exact hmoves.trans (move { a with world := a.world.run moves } hlast)

end Onward

/-! ## Pages come and go -/

theorem not_isLive_length (w : World) : w.isLive w.mounted.length = false := by
  simp [World.isLive, World.binding?]

/-- A page that opens is put on the stack with the binding that is mounted for it. -/
theorem openPage_eq (a : App) (r : Resource) : a.openPage r =
    { a with
      world := a.world.mount r.policy r.sections
      stack := .mounted r a.world.mounted.length (.mounted r.policy.key (a.world.read r.policy.key)) ::
        a.stack } := by
  have hb := World.binding?_mount a.world r.policy r.sections a.world.mounted.length
  rw [if_pos rfl] at hb
  simp only [openPage]
  split
  · next b' hb' =>
    obtain rfl := Option.some.inj (hb.symm.trans hb')
    rfl
  · next hnone => cases hb.symm.trans hnone

theorem openBindings_openPage (a : App) (r : Resource) :
    (a.openPage r).openBindings = a.world.mounted.length :: a.openBindings := by
  rw [openPage_eq, openBindings, List.map_cons, Page.binding_mounted, openBindings]

/-- A page that opens takes a binding of its own. -/
theorem onward_openPage (a : App) (r : Resource) : Onward a (a.openPage r) := by
  have hworld : (a.openPage r).world = a.world.move (.mount r.policy r.sections) := by
    rw [openPage_eq]
    rfl
  refine ⟨⟨[.mount r.policy r.sections], hworld⟩, fun o => ⟨?_, ?_, fun n => ?_⟩⟩
  · rw [hworld]
    exact o.reached.move _
  · rw [openBindings_openPage, List.nodup_cons]
    refine ⟨?_, o.nodup⟩
    rw [← o.live, not_isLive_length]
    exact Bool.false_ne_true
  · rw [openBindings_openPage, hworld, o.reached.isLive_move, List.mem_cons, ← o.live, Bool.or_eq_true,
      decide_eq_true_eq]

/-- Leaving the page on top unmounts its binding. -/
theorem onward_pop {a : App} {top : Page} {rest : List Page} (h : a.stack = top :: rest) :
    Onward a { a with world := a.world.unmount top.binding, stack := rest } := by
  have hbindings : a.openBindings = top.binding :: rest.map (·.binding) := by
    rw [openBindings, h, List.map_cons]
  refine ⟨⟨[.unmount top.binding], rfl⟩, fun o => ⟨?_, ?_, fun n => ?_⟩⟩
  · exact o.reached.move (.unmount top.binding)
  · have hnodup := o.nodup
    rw [hbindings] at hnodup
    exact (List.nodup_cons.1 hnodup).2
  · have hnodup := o.nodup
    rw [hbindings] at hnodup
    have hfresh := (List.nodup_cons.1 hnodup).1
    show (a.world.move (.unmount top.binding)).isLive n = true ↔ n ∈ rest.map (·.binding)
    rw [o.reached.isLive_move]
    simp only [Bool.and_eq_true, decide_eq_true_eq]
    rw [o.live, hbindings, List.mem_cons]
    constructor
    · rintro ⟨hne, rfl | hmem⟩
      · exact absurd rfl hne
      · exact hmem
    · intro hmem
      refine ⟨?_, .inr hmem⟩
      rintro rfl
      exact hfresh hmem

theorem onward_goBack (a : App) : Onward a a.goBack := by
  unfold goBack
  split
  · next h => exact onward_pop h
  · exact (Onward.refl a).congr rfl rfl

theorem onward_closeAll (a : App) : Onward a a.closeAll := by
  -- The pages go one after the other, the one on top first.
  have hclose : ∀ (stack : List Page) (world : World), Onward { a with world := world, stack := stack }
      { a with
        world := stack.foldl (fun w p => w.unmount p.binding) world
        stack := [] } := by
    intro stack
    induction stack with
    | nil => exact fun world => Onward.refl _
    | cons top rest ih =>
      intro world
      exact (onward_pop rfl).trans (ih (world.unmount top.binding))
  exact hclose a.stack a.world

theorem onward_openRoot (a : App) (r : Resource) : Onward a (a.openRoot r) :=
  (onward_closeAll a).trans (onward_openPage a.closeAll r)

/-! ## Keys -/

theorem onward_perform {a : App} {top : Page} (action : PageAction) :
    Onward a (a.perform top action) := by
  cases action with
  | none => exact .refl a
  | refresh => exact .move a (m := .refresh top.binding) rfl
  | back => exact onward_goBack a
  | visit r => exact onward_openPage a r

theorem onward_execute (a : App) (command : String) : Onward a (a.execute command) := by
  unfold execute
  split
  · exact .refl a
  · split
    · exact (Onward.refl a).congr rfl rfl
    · split
      · exact onward_openRoot a _
      · exact (Onward.refl a).congr rfl rfl

theorem onward_pressPage (a : App) (k : Key) : Onward a (a.pressPage k) := by
  unfold pressPage
  split
  · unfold dismissLatest
    split <;> exact (Onward.refl a).congr rfl rfl
  · split
    · exact .refl a
    · next top rest hstack =>
      refine Onward.trans ?_ (onward_perform (top.press k).2)
      refine (Onward.refl a).congr rfl (openBindings_of_faces ?_)
      rw [hstack, List.map_cons, List.map_cons, Page.face_press]

theorem onward_press (a : App) (k : Key) : Onward a (a.press k) := by
  unfold press
  split
  · exact (Onward.refl a).congr rfl rfl
  · split
    · exact onward_pressPage a k
    · next p command _ =>
      refine Onward.trans ?_ (onward_execute { a with palette := p } command)
      exact (Onward.refl a).congr rfl rfl
    · exact (Onward.refl a).congr rfl rfl

/-! ## Ticks and pictures -/

/-- What a tick does to one page is a poll of its binding. -/
theorem tickPage_eq (p : Page) (w : World) (q : NotificationQueue) :
    (tickPage p w q).1.face = p.face ∧ (tickPage p w q).2.1 = w.move (.poll p.binding q) := by
  unfold tickPage
  split
  · next hnone =>
    refine ⟨rfl, ?_⟩
    simp only [World.move, World.report, hnone]
  · next b hb =>
    refine ⟨?_, rfl⟩
    dsimp only
    split
    · rfl
    · rw [Page.face_updated]

/-- What a tick does to the pages of a stack. -/
def tickAll (stack : List Page) (w : World) (q : NotificationQueue) :
    List Page × World × NotificationQueue :=
  stack.foldr (fun p (done, w, q) =>
    let (p, w, q) := tickPage p w q
    (p :: done, w, q)) ([], w, q)

theorem tickAll_cons (p : Page) (below : List Page) (w : World) (q : NotificationQueue) :
    tickAll (p :: below) w q =
      let (done, w, q) := tickAll below w q
      let (p, w, q) := tickPage p w q
      (p :: done, w, q) := rfl

/-- Ticking pages is polling their bindings, those below first. -/
theorem tickAll_eq (stack : List Page) (w : World) (q : NotificationQueue) :
    (tickAll stack w q).1.map Page.face = stack.map Page.face ∧
      ∃ moves : List Move, (∀ m ∈ moves, m.comesOrGoes = false) ∧ (tickAll stack w q).2.1 = w.run moves := by
  induction stack with
  | nil => exact ⟨rfl, [], List.forall_mem_nil _, rfl⟩
  | cons p below ih =>
    obtain ⟨hfaces, moves, hstays, hmoves⟩ := ih
    rw [tickAll_cons]
    generalize tickAll below w q = rest at hfaces hmoves ⊢
    obtain ⟨done, w', q'⟩ := rest
    obtain ⟨hface, hworld⟩ := tickPage_eq p w' q'
    refine ⟨?_, moves ++ [.poll p.binding q'], ?_, ?_⟩
    · show (tickPage p w' q').1.face :: done.map Page.face = _
      rw [hface, hfaces, List.map_cons]
    · intro m hm
      rcases List.mem_append.1 hm with hm | hm
      · exact hstays m hm
      · rw [List.mem_singleton.1 hm]
        rfl
    · show (tickPage p w' q').2.1 = _
      rw [hworld, World.run_concat, ← hmoves]

/-- A tick leaves the pages what stays of them. -/
theorem faces_tick (a : App) : a.tick.stack.map Page.face = a.stack.map Page.face :=
  (tickAll_eq a.stack a.world a.notifications).1

theorem onward_tick (a : App) : Onward a a.tick := by
  obtain ⟨-, moves, hstays, hmoves⟩ := tickAll_eq a.stack a.world a.notifications
  exact (Onward.stays a hstays).congr hmoves (openBindings_of_faces (faces_tick a))

/-- Drawing draws the page on top, if there is one with a binding, and leaves the rest of the program as it
is. -/
theorem draw_cases {a drawn : App} {c : Canvas} {width height : Nat}
    (h : a.draw width height = .ok (drawn, c)) :
    (drawn = a ∧ ∀ top rest, a.stack = top :: rest → a.world.binding? top.binding = none) ∨
      ∃ top rest b c' r top' c'', a.stack = top :: rest ∧ a.world.binding? top.binding = some b ∧
        top.draw b c' r = .ok (top', c'') ∧ drawn = { a with stack := top' :: rest } := by
  unfold draw at h
  obtain ⟨⟨paged, d⟩, hpage, h⟩ := ok_of_bind h
  obtain ⟨d', -, h⟩ := ok_of_bind h
  cases h
  unfold drawPage at hpage
  split at hpage
  · next hstack =>
    cases hpage
    exact .inl ⟨rfl, fun top rest heq => by rw [hstack] at heq; cases heq⟩
  · next top rest hstack =>
    split at hpage
    · next hnone =>
      cases hpage
      refine .inl ⟨rfl, fun top' rest' heq => ?_⟩
      obtain ⟨rfl, -⟩ := List.cons.inj (hstack.symm.trans heq)
      exact hnone
    · next b hb =>
      obtain ⟨⟨top', d''⟩, hdraw, heq⟩ := ok_of_map hpage
      cases heq
      exact .inr ⟨top, rest, b, _, _, top', _, hstack, hb, hdraw, rfl⟩

/-- Drawing leaves the program as it is, and the pages what stays of them. -/
theorem draw_eq {a drawn : App} {c : Canvas} {width height : Nat}
    (h : a.draw width height = .ok (drawn, c)) :
    drawn = { a with stack := drawn.stack } ∧ drawn.stack.map Page.face = a.stack.map Page.face := by
  obtain ⟨rfl, -⟩ | ⟨top, rest, b, c', r, top', c'', hstack, -, hdraw, rfl⟩ := draw_cases h
  · exact ⟨rfl, rfl⟩
  · refine ⟨rfl, ?_⟩
    rw [hstack, List.map_cons, List.map_cons, Page.face_draw hdraw]

theorem onward_draw {a drawn : App} {c : Canvas} {width height : Nat}
    (h : a.draw width height = .ok (drawn, c)) : Onward a drawn := by
  obtain ⟨heq, hfaces⟩ := draw_eq h
  exact (Onward.refl a).congr (by rw [heq]) (openBindings_of_faces hfaces)

/-- Everything that happens to the program is a run of its world, and leaves the pages their bindings. -/
theorem onward_after (a : App) (e : Event) : Onward a (a.after e) := by
  cases e with
  | press k => exact onward_press a k
  | tick => exact onward_tick a
  | draw width height =>
    simp only [after]
    split
    · next h => exact onward_draw h
    · exact .refl a
  | outside m h =>
    refine .move a ?_
    cases m with
    | mount | refresh | poll | unmount => cases h
    | goOn | clock | calendar | line | serve | disturb => rfl

/-- Something that can happen leads to the program from its start. -/
inductive Reached : App → Prop
  | start (config : Config) (page : Option String) (calendar : Int) (space : String)
      (storage : Cache.Storage) (servers : Servers) :
      Reached (start config (.start calendar space storage servers) page)
  | after {a : App} (h : Reached a) (e : Event) : Reached (a.after e)

theorem Reached.events {a : App} (h : Reached a) (events : List Event) :
    Reached (events.foldl App.after a) := by
  induction events generalizing a with
  | nil => exact h
  | cons e events ih => exact ih (h.after e)

/-- A program without pages in a world without bindings. -/
theorem isOpen_of_empty {a : App} (reached : a.world.Reached) (empty : a.world.mounted = [])
    (stack : a.stack = []) : IsOpen a := by
  have hdead (n : Nat) : a.world.isLive n = false := by simp [World.isLive, World.binding?, empty]
  refine ⟨reached, ?_, fun n => ?_⟩
  · rw [openBindings, stack]
    exact List.nodup_nil
  · rw [openBindings, stack, hdead]
    simp

/-- The program opens its first page in the world that it is given. -/
theorem isOpen_start (config : Config) (page : Option String) {w : World} (reached : w.Reached)
    (empty : w.mounted = []) : IsOpen (start config w page) := by
  unfold start
  dsimp only
  split
  · exact (onward_openRoot _ _).isOpen (isOpen_of_empty reached empty rfl)
  · split
    · exact (onward_openRoot _ _).isOpen (isOpen_of_empty reached empty rfl)
    · exact isOpen_of_empty reached empty rfl

/-- The live bindings of a reachable program are those of the pages on the stack, and each page has one of
its own. -/
theorem Reached.isOpen {a : App} (h : Reached a) : IsOpen a := by
  induction h with
  | start config page calendar space storage servers =>
    exact isOpen_start config page (.start calendar space storage servers) rfl
  | after h e ih => exact (onward_after _ e).isOpen ih

end App

end Lookout
