import Lookout.Proofs.App.Teardown
import Lookout.Proofs.App.Typing
import Lookout.Proofs.Page.Presented

/-!
# What the pages show

At every moment the data of each page on the stack is decoded from the snapshot of its binding: a snapshot
changes only when the page looks at what has arrived, and then the page decodes it again. So each page
presents its snapshot, the fetches that the user waits for, and the last outcome.

* **`snapshotOf_move`** — only a page that looks at its outcomes gets another snapshot.
* **`Decoded.after`** — whatever happens, the data of the pages is that of their snapshots.
* **`pages_present`** — what every page on the stack presents.
-/

namespace Lookout

/-! ## Snapshots -/

namespace World

/-- The snapshot of the binding of a number. -/
def snapshotOf (w : World) (n : Nat) : Option Cache.Entry := (w.binding? n).bind (·.snapshot)

theorem snapshotOf_congr {w v : World} (h : v.bindings = w.bindings) (n : Nat) :
    v.snapshotOf n = w.snapshotOf n := by
  rw [snapshotOf, binding?_eq, h, snapshotOf, binding?_eq]

theorem snapshotOf_modify_ne {w v : World} {k n : Nat} {g : Binding → Binding}
    (h : v.bindings = w.bindings.modify k g) (hk : k ≠ n) : v.snapshotOf n = w.snapshotOf n := by
  rw [snapshotOf, binding?_eq, h, List.getElem?_modify_ne _ _ hk, snapshotOf, binding?_eq]

/-- A binding that changes without its snapshot keeps that. -/
theorem snapshotOf_modify {w v : World} {k : Nat} {g : Binding → Binding}
    (h : v.bindings = w.bindings.modify k g) (same : ∀ b, (g b).snapshot = b.snapshot) (n : Nat) :
    v.snapshotOf n = w.snapshotOf n := by
  by_cases hk : k = n
  · subst hk
    rw [snapshotOf, binding?_eq, h, List.getElem?_modify_eq, snapshotOf, binding?_eq]
    cases w.bindings[k]? with
    | none => rfl
    | some b => exact same b
  · exact snapshotOf_modify_ne h hk

theorem snapshotOf_unmount (w : World) (k n : Nat) : (w.unmount k).snapshotOf n = w.snapshotOf n :=
  snapshotOf_modify (bindings_unmount w k) (fun _ => rfl) n

theorem snapshotOf_refresh (w : World) (k n : Nat) : (w.refresh k).snapshotOf n = w.snapshotOf n := by
  rcases refresh_cases w k with ⟨heq, -⟩ | ⟨m, -, -, heq⟩
  · rw [heq]
  · have hbindings : (w.refresh k).bindings = w.bindings.modify k Binding.refreshed := by
      rw [heq]
      exact bindings_modify fun _ => rfl
    exact snapshotOf_modify hbindings (fun _ => rfl) n

theorem snapshotOf_mount (w : World) (policy : Fetch.Policy) (sections : List Section) (n : Nat) :
    (w.mount policy sections).snapshotOf n =
      if n = w.mounted.length then w.read policy.key else w.snapshotOf n := by
  rw [snapshotOf, binding?_mount]
  split <;> rfl

theorem snapshotOf_poll_ne (w : World) {k n : Nat} (h : k ≠ n) : (w.poll k).snapshotOf n = w.snapshotOf n :=
  snapshotOf_modify_ne (bindings_poll w k) h

theorem snapshotOf_poll_self (w : World) (n : Nat) :
    (w.poll n).snapshotOf n = (w.binding? n).bind fun b => b.poll.snapshot := by
  rw [snapshotOf, binding?_eq, bindings_poll, List.getElem?_modify_eq, ← binding?_eq]
  cases w.binding? n <;> rfl

/-- Nothing that happens without the pages changes a snapshot. -/
theorem snapshotOf_outside (w : World) {m : Move} (h : m.isOfPage = false) (n : Nat) :
    (w.move m).snapshotOf n = w.snapshotOf n := by
  cases m with
  | mount | refresh | poll | unmount => cases h
  | goOn task =>
    rcases (turn_runTask w task).ends_or with hnone | ⟨x, result, hends⟩
    · exact snapshotOf_congr hnone.bindings n
    · refine snapshotOf_modify hends.bindings (fun b => ?_) n
      unfold Binding.receive
      split <;> rfl
  | clock | calendar | line | serve | disturb => exact snapshotOf_congr rfl n

end World

/-! ## Pages and their snapshots -/

namespace Page

open Snapshot

/-- The data of the page is decoded from a snapshot. -/
def Decodes (snapshot : Option Cache.Entry) : Page → Prop
  | .hosting p => p.content.data = snapshot.map fun e => Hosting.read e.payload
  | .chatList p => p.content.data = snapshot.map fun e => ChatList.read e.payload
  | .thread p => p.content.data = snapshot.map fun e => ChatThread.read e.payload
  | .sections p => p.content.data = snapshot.map fun e => .ok e.payload

/-- The page presents its binding, and does not say that there is no data without saying why. -/
def Presented (w : World) : Page → Prop
  | .hosting p => ∃ b applied, p.content.Presents Hosting.read w b applied ∧
    p.content.placeholder? b ≠ some "No data."
  | .chatList p => ∃ b applied, p.content.Presents ChatList.read w b applied ∧
    p.content.placeholder? b ≠ some "No data."
  | .thread p => ∃ b applied, p.content.Presents ChatThread.read w b applied ∧
    p.content.placeholder? b ≠ some "No data."
  | .sections p => ∃ b applied, p.content.Presents .ok w b applied ∧
    p.content.placeholder? b ≠ some "No data."

theorem SameContent.decodes {p q : Page} (h : SameContent p q) {snapshot : Option Cache.Entry}
    (d : p.Decodes snapshot) : q.Decodes snapshot := by
  cases h with
  | hosting content | thread content | sections content | chatList _ content =>
    exact (congrArg PageContent.data content).trans d

theorem SameContent.binding {p q : Page} (h : SameContent p q) : q.binding = p.binding := by
  rw [← binding_face, h.face, binding_face]

theorem decodes_mounted (r : Resource) (n : Nat) (b : Binding) : (mounted r n b).Decodes b.snapshot := by
  unfold mounted
  split <;> rfl

theorem decodes_updated (p : Page) (b : Binding) : (p.updated b).Decodes b.snapshot := by
  cases p <;> rfl

end Page

namespace App

/-- The data of every page on the stack is decoded from the snapshot of its binding. -/
def Decoded (a : App) : Prop := ∀ p ∈ a.stack, p.Decodes (a.world.snapshotOf p.binding)

namespace Decoded

variable {a : App}

/-- Nothing changes for the pages as long as their snapshots stay. -/
theorem congr {b : App} (h : Decoded a) (stack : b.stack = a.stack)
    (snapshots : ∀ n, b.world.snapshotOf n = a.world.snapshotOf n) : Decoded b := by
  intro p hp
  rw [snapshots]
  exact h p (stack ▸ hp)

/-- A page on top may change as long as its content stays. -/
theorem top {b : App} (h : Decoded a) {p q : Page} {rest : List Page} (was : a.stack = p :: rest)
    (stack : b.stack = q :: rest) (world : b.world = a.world) (same : Page.SameContent p q) :
    Decoded b := by
  unfold Decoded at h ⊢
  rw [was, List.forall_mem_cons] at h
  rw [stack, world, List.forall_mem_cons, same.binding]
  exact ⟨same.decodes h.1, h.2⟩

theorem openPage (h : Decoded a) (o : IsOpen a) (r : Resource) : Decoded (a.openPage r) := by
  rw [openPage_eq]
  refine List.forall_mem_cons.2 ⟨?_, fun p hp => ?_⟩
  · rw [Page.binding_mounted, World.snapshotOf_mount, if_pos rfl]
    exact Page.decodes_mounted r _ _
  · -- The pages below have bindings of their own.
    have hlt : p.binding < a.world.mounted.length := o.there (List.mem_map_of_mem hp)
    rw [World.snapshotOf_mount, if_neg (Nat.ne_of_lt hlt)]
    exact h p hp

theorem openRoot (a : App) (o : IsOpen a) (r : Resource) : Decoded (a.openRoot r) := by
  have hclosed : Decoded a.closeAll := List.forall_mem_nil _
  exact hclosed.openPage ((onward_closeAll a).isOpen o) r

theorem goBack (h : Decoded a) : Decoded a.goBack := by
  unfold App.goBack
  split
  · next top below rest was =>
    unfold Decoded at h
    rw [was, List.forall_mem_cons] at h
    intro p hp
    rw [World.snapshotOf_unmount]
    exact h.2 p hp
  · exact h

theorem perform (h : Decoded a) (o : IsOpen a) (top : Page) (action : PageAction) :
    Decoded (a.perform top action) := by
  cases action with
  | none => exact h
  | refresh => exact h.congr rfl (World.snapshotOf_refresh a.world top.binding)
  | back => exact h.goBack
  | visit r => exact h.openPage o r

theorem execute (h : Decoded a) (o : IsOpen a) (command : String) : Decoded (a.execute command) := by
  unfold App.execute
  split
  · exact h
  · split
    · exact h
    · split
      · exact openRoot a o _
      · exact h

theorem pressPage (h : Decoded a) (o : IsOpen a) (k : Key) : Decoded (a.pressPage k) := by
  unfold App.pressPage
  split
  · unfold dismissLatest
    split <;> exact h
  · split
    · exact h
    · next top rest was =>
      have hpressed : Decoded { a with stack := (top.press k).1 :: rest } :=
        h.top was rfl rfl (Page.sameContent_press top k)
      have honward : Onward a { a with stack := (top.press k).1 :: rest } := by
        refine (Onward.refl a).congr rfl (openBindings_of_faces ?_)
        rw [was, List.map_cons, List.map_cons, Page.face_press]
      exact hpressed.perform (honward.isOpen o) _ _

theorem press (h : Decoded a) (o : IsOpen a) (k : Key) : Decoded (a.press k) := by
  unfold App.press
  split
  · exact h
  · split
    · exact h.pressPage o k
    · next p command _ =>
      have honward : Onward a { a with palette := p } := (Onward.refl a).congr rfl rfl
      have hpalette : Decoded { a with palette := p } := h
      exact hpalette.execute (honward.isOpen o) command
    · exact h

/-! ## Ticks and pictures -/

/-- A page that looks at what has arrived decodes its snapshot again if that can have changed. -/
theorem tickPage {p : Page} {w : World} (q : NotificationQueue) (h : p.Decodes (w.snapshotOf p.binding)) :
    (App.tickPage p w q).1.Decodes ((App.tickPage p w q).2.1.snapshotOf p.binding) := by
  unfold App.tickPage
  split
  · exact h
  · next b hb =>
    show (if b.inbox.isEmpty then p else p.updated b.poll).Decodes
      ((w.report p.binding q).1.snapshotOf p.binding)
    rw [World.report_fst, World.snapshotOf_poll_self, hb, Option.bind_some]
    split
    · next hempty =>
      -- Nothing has arrived, so that the snapshot is the same.
      rw [World.snapshotOf, hb, Option.bind_some] at h
      have hpoll : b.poll.snapshot = b.snapshot := by
        rw [Binding.poll, List.isEmpty_iff.1 hempty]
        rfl
      rw [hpoll]
      exact h
    · exact Page.decodes_updated p b.poll

theorem binding_tickPage (p : Page) (w : World) (q : NotificationQueue) :
    (App.tickPage p w q).1.binding = p.binding := by
  rw [← Page.binding_face, (tickPage_eq p w q).1, Page.binding_face]

theorem snapshotOf_tickPage_ne {p : Page} {w : World} (q : NotificationQueue) {n : Nat}
    (hn : p.binding ≠ n) : (App.tickPage p w q).2.1.snapshotOf n = w.snapshotOf n := by
  rw [(tickPage_eq p w q).2, World.move, World.report_fst, World.snapshotOf_poll_ne w hn]

/-- The pages look at what has arrived one after the other, each at its own. -/
theorem tickAll {stack : List Page} {w : World} (q : NotificationQueue)
    (nodup : (stack.map (·.binding)).Nodup) (h : ∀ p ∈ stack, p.Decodes (w.snapshotOf p.binding)) :
    (∀ p ∈ (App.tickAll stack w q).1, p.Decodes ((App.tickAll stack w q).2.1.snapshotOf p.binding)) ∧
      ∀ n, n ∉ stack.map (·.binding) →
        (App.tickAll stack w q).2.1.snapshotOf n = w.snapshotOf n := by
  induction stack with
  | nil => exact ⟨fun _ hp => (List.not_mem_nil hp).elim, fun _ _ => rfl⟩
  | cons p below ih =>
    rw [List.map_cons, List.nodup_cons] at nodup
    rw [List.forall_mem_cons] at h
    obtain ⟨hdone, hrest⟩ := ih nodup.2 h.2
    have hfaces := (tickAll_eq below w q).1
    rw [tickAll_cons]
    generalize App.tickAll below w q = ticked at hdone hrest hfaces ⊢
    obtain ⟨done, v, q'⟩ := ticked
    dsimp only at hdone hrest hfaces ⊢
    have hbindings : done.map (·.binding) = below.map (·.binding) := by
      have := congrArg (List.map Page.Face.binding) hfaces
      simpa only [List.map_map, Function.comp_def, Page.binding_face] using this
    refine ⟨List.forall_mem_cons.2 ⟨?_, fun r hr => ?_⟩, fun n hn => ?_⟩
    · rw [binding_tickPage]
      refine tickPage q' ?_
      rw [hrest _ nodup.1]
      exact h.1
    · have hmem : r.binding ∈ below.map (·.binding) := hbindings ▸ List.mem_map_of_mem hr
      rw [snapshotOf_tickPage_ne q' fun heq => nodup.1 (heq ▸ hmem)]
      exact hdone r hr
    · rw [List.map_cons, List.mem_cons, not_or] at hn
      rw [snapshotOf_tickPage_ne q' (Ne.symm hn.1), hrest n hn.2]

theorem draw (h : Decoded a) {drawn : App} {c : Canvas} {width height : Nat}
    (hdraw : a.draw width height = .ok (drawn, c)) : Decoded drawn := by
  obtain ⟨rfl, -⟩ | ⟨top, rest, b, c', r, top', c'', was, -, hpage, rfl⟩ := draw_cases hdraw
  · exact h
  · exact h.top was rfl rfl (Page.sameContent_draw hpage)

/-- Whatever happens, the data of the pages is that of their snapshots. -/
theorem after (h : Decoded a) (o : IsOpen a) (e : Event) : Decoded (a.after e) := by
  cases e with
  | press k => exact h.press o k
  | tick => exact (tickAll a.notifications o.nodup h).1
  | draw width height =>
    simp only [App.after]
    split
    · next hdraw => exact h.draw hdraw
    · exact h
  | outside m hm => exact h.congr rfl (World.snapshotOf_outside a.world hm)

end Decoded

/-! ## What the pages present -/

theorem decoded_start (config : Config) (page : Option String) {w : World} (reached : w.Reached)
    (empty : w.mounted = []) : Decoded (start config w page) := by
  unfold start
  dsimp only
  split
  · exact Decoded.openRoot _ (isOpen_of_empty reached empty rfl) _
  · split
    · exact Decoded.openRoot _ (isOpen_of_empty reached empty rfl) _
    · exact List.forall_mem_nil _

theorem Reached.decoded {a : App} (h : Reached a) : Decoded a := by
  induction h with
  | start config page calendar space storage servers =>
    exact decoded_start config page (.start calendar space storage servers) rfl
  | after h e ih => exact ih.after h.isOpen e

/-- In every run from the start, each page on the stack presents its binding, which is there: its data is
decoded from the snapshot and missing exactly if that is; a text stands in place of the content exactly if
the snapshot is missing or cannot be decoded; without a snapshot it says that the page is loading exactly
while the user waits for a fetch, and otherwise why the last one failed; and the heading says so too, or
that the content is stale exactly if nobody waits for newer and the last outcome was a failure. -/
theorem pages_present {a : App} (h : Reached a) : ∀ p ∈ a.stack, p.Presented a.world := by
  intro p hp
  have hlive : a.world.isLive p.binding = true := (h.isOpen.live _).2 (List.mem_map_of_mem hp)
  have hdecodes := h.decoded p hp
  obtain ⟨b, hb, hmounted⟩ := (Option.any_eq_true _ _).1 hlive
  obtain ⟨history, recorded⟩ := h.isOpen.reached.recorded p.binding
  unfold World.Recorded at recorded
  rw [hb] at recorded
  rw [World.snapshotOf, hb, Option.bind_some] at hdecodes
  cases recorded with
  | @some _ history f =>
    have hthere : history.gone = false := by
      rw [f.shows.isMounted] at hmounted
      simpa using hmounted
    cases p with
    | hosting p | chatList p | thread p | sections p =>
      have hpresents := PageContent.presents hb f hthere hdecodes
      exact ⟨b, history.applied, hpresents, hpresents.placeholder?_ne_noData⟩

/-- A program whose first fetch has failed, before it has anything to show. -/
def failedCold : App :=
  [Event.goOn (.job 0), .tick].foldl after
    (start plainConfig (.start 0 "" .empty fun _ _ => ⟨0, .error (.http "servers" 503)⟩) none)

/-- Its only page says so. -/
theorem failed_cold_presents : Reached failedCold ∧
    (∀ p ∈ failedCold.stack, p.Presented failedCold.world) ∧
    failedCold.stack.map (fun
      | .hosting p => (failedCold.world.binding? p.content.binding).map fun b =>
        (p.content.placeholder? b, p.content.heading b none)
      | _ => none) =
      [some (some "Failed to load Hosting: servers returned HTTP 503\n\nPress 'r' to retry.",
        " Hosting (error) ")] := by
  have hreached : Reached failedCold := (Reached.start _ _ _ _ _ _).events _
  exact ⟨hreached, pages_present hreached, by decide +kernel⟩

end App

end Lookout
