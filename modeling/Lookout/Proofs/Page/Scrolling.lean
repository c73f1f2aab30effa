import Lookout.Page.Thread
import Lookout.Proofs.Input.Bytes
import Lookout.Proofs.Screen.Strokes

/-!
# Scrolling through a chat

The page of a chat shows as many lines of its messages as it has rows, one after the other. How far it is
scrolled up is kept between draws, and no farther than the first line once it is drawn, whatever keys, messages
and sizes of the screen there have been. The lines are counted in a coordinate. As long as that holds their
number, a page that is not scrolled up ends with the last one; with more lines, it ends before.

* **`scrollTo_bottom`** — when a page that is not scrolled up ends before the last line.
* **`exists_draw`** — what a draw shows.
* **`exists_run`** — no draw fails, and a page that follows the newest message is not scrolled up.
* **`climb`** — how far a page has been scrolled up by its keys.
* **`newest_at_bottom`** — what is shown after any keys, messages and draws.
-/

namespace Lookout

open Checked

namespace ThreadPage

open Snapshot (ChatThread)

/-! ## The window -/

theorem lines_append (older newer : List Snapshot.Message) :
    lines (older ++ newer) = lines older ++ lines newer := List.flatMap_append

theorem length_lines_replicate (n : Nat) (m : Snapshot.Message) :
    (lines (List.replicate n m)).length = n * (messageLines m).length := by
  rw [lines, List.length_flatMap, List.map_replicate, List.sum_replicate_nat]

variable {back count seen : Nat}

/-- The lines in front of the window, by a subtraction that can fail. -/
def offsetChecked (back count seen : Nat) : Except Crash Nat :=
  minus (farthest count seen) (min back (farthest count seen))

/-- The subtraction does not fail. -/
theorem offsetChecked_eq (back count seen : Nat) :
    offsetChecked back count seen = .ok (scrollTo back count seen).1 :=
  minus_eq (Nat.min_le_right _ _)

theorem farthest_le (count seen : Nat) : farthest count seen ≤ count - seen :=
  Nat.sub_le_sub_right (Nat.mod_le _ _) _

/-- The window does not go beyond the last line if there are enough lines to fill it. -/
theorem scrollTo_fits (back count seen : Nat) : (scrollTo back count seen).1 + min seen count ≤ count := by
  have hle := farthest_le count seen
  simp only [scrollTo]
  omega

/-- The last row of the window is a coordinate. -/
theorem scrollTo_coordinate (h : seen < coordinateValues) :
    seen + (scrollTo back count seen).1 < coordinateValues := by
  have hmod : count % coordinateValues < coordinateValues := Nat.mod_lt _ (by decide)
  simp only [scrollTo, farthest]
  omega

/-- A page that is not scrolled up ends before the last line exactly if a coordinate does not hold the number of
lines. -/
theorem scrollTo_bottom (h : seen < coordinateValues) :
    (scrollTo 0 count seen).1 + seen < count ↔ coordinateValues ≤ count := by
  simp only [scrollTo, farthest, Nat.zero_min, Nat.sub_zero]
  constructor
  · intro hlt
    by_contra hfew
    rw [Nat.mod_eq_of_lt (Nat.not_le.1 hfew)] at hlt
    omega
  · intro hmany
    have hmod : count % coordinateValues < coordinateValues := Nat.mod_lt _ (by decide)
    omega

/-- A page that is scrolled up as far as can be shows the first line. -/
theorem scrollTo_top (h : farthest count seen ≤ back) : (scrollTo back count seen).1 = 0 := by
  rw [scrollTo, Nat.min_eq_right h, Nat.sub_self]

theorem length_window {α : Type} (back seen : Nat) (all : List α) :
    (window (scrollTo back all.length seen).1 seen all).length = min seen all.length := by
  have hfits := scrollTo_fits back all.length seen
  rw [window, List.length_take, List.length_drop]
  omega

theorem window_of_bottom {α : Type} {all : List α} (few : all.length < coordinateValues) :
    window (scrollTo 0 all.length seen).1 seen all = all.drop (all.length - seen) := by
  have hoffset : (scrollTo 0 all.length seen).1 = all.length - seen := by
    simp only [scrollTo, farthest, Nat.zero_min, Nat.sub_zero, Nat.mod_eq_of_lt few]
  rw [window, hoffset]
  refine List.take_of_length_le ?_
  rw [List.length_drop]
  omega

/-! ## Draws -/

/-- To draw the page succeeds, and the lines are seen in the rows of its inner part, from the first row on. -/
def Shows (p : ThreadPage) (b : Binding) (c : Canvas) (r : Rect) (shown : List (List Span)) : Prop :=
  ∃ q d, p.draw b c r = .ok (q, d) ∧ ∀ x y, x < c.width → y < c.height → r.inner.Has x y →
    d.cell x y =
      (c.drawRow y r.inner.x (Canvas.cutLine r.inner.width (shown.getD (y - r.inner.y) []))).cell x y

variable {p : ThreadPage} {r : Rect}

/-- The lines that a page shows when it has been scrolled up. -/
def linesShown (p : ThreadPage) (data : ChatThread) (r : Rect) : List (List Span) :=
  window (scrollTo p.scrollBack (lines data.messages).length (r.height - 2)).1 (r.height - 2)
    (lines data.messages)

/-- If there are messages, a draw shows a window of their lines, and the page is scrolled up no farther than it
can be. -/
theorem exists_draw {data : ChatThread} (loaded : p.content.loaded? = some data)
    (filled : data.messages ≠ []) (sized : r.height < coordinateValues) (b : Binding) (c : Canvas) :
    ∃ d, p.draw b c r = .ok ({ p with scrollBack :=
        (scrollTo p.scrollBack (lines data.messages).length (r.height - 2)).2 }, d) ∧
      ∀ x y, x < c.width → y < c.height → r.inner.Has x y → d.cell x y = (c.drawRow y r.inner.x
        (Canvas.cutLine r.inner.width ((p.linesShown data r).getD (y - r.inner.y) []))).cell x y := by
  let panel := Panel.centered .blue (p.content.heading b (some data.messages.length))
  have hpanel := Canvas.draws_panel panel r
  have hplaceholder : p.content.placeholder? b = none :=
    (p.content.placeholder?_eq_none_iff b).2 (by rw [loaded]; rfl)
  have hmessages : data.messages.isEmpty = false := List.isEmpty_eq_false_iff.2 filled
  have hcoordinate : r.inner.height +
      (scrollTo p.scrollBack (lines data.messages).length (r.height - 2)).1 < coordinateValues :=
    scrollTo_coordinate (Nat.lt_of_le_of_lt (Nat.sub_le _ _) sized)
  refine ⟨(panel.draw c r).drawLines r.inner (p.linesShown data r), ?_, fun x y hx hy hinside => ?_⟩
  · unfold draw
    simp only [loaded, hplaceholder, Option.map_some, Option.getD_some, hmessages, Bool.false_eq_true, if_false]
    rw [Canvas.drawScrolled_eq _ hcoordinate]
    rfl
  · have hx' : x < (panel.draw c r).width := by rwa [hpanel.width]
    have hy' : y < (panel.draw c r).height := by rwa [hpanel.height]
    rw [Canvas.cell_drawLines _ _ hx' hy' hinside]
    exact (Canvas.draws_glyphRow y r.inner.x _).cell_congr hx' hy' hx hy (Canvas.cell_panel panel c hx hy hinside)

/-- If there are no messages, a draw leaves the page as it is. -/
theorem draw_of_no_lines (h : ∀ data, p.content.loaded? = some data → data.messages = []) (b : Binding)
    (c : Canvas) (r : Rect) : ∃ d, p.draw b c r = .ok (p, d) := by
  unfold draw
  split
  · exact ⟨_, rfl⟩
  · have hmessages : ((p.content.loaded?.map ChatThread.messages).getD []) = [] := by
      cases hloaded : p.content.loaded? with
      | none => rfl
      | some data => exact h data hloaded
    rw [hmessages]
    exact ⟨_, rfl⟩

/-! ## Keys -/

/-- How far a page is scrolled up after a key. -/
def scrollBy (code : KeyCode) (back : Nat) : Nat :=
  match code with
  | .char 'k' | .up => scrollOn back 1
  | .char 'j' | .down => back - 1
  | .pageUp => scrollOn back 10
  | .pageDown => back - 10
  | .char 'G' | .finish => 0
  | _ => back

theorem press_eq (p : ThreadPage) (k : Key) :
    (p.press k).1 = { p with scrollBack := scrollBy k.code p.scrollBack } := by
  unfold press
  dsimp only
  split <;> simp [scrollBy, *]

/-- The keys that scroll up. -/
def scrollsUp (code : KeyCode) : Bool := code = .char 'k' || code = .up || code = .pageUp

/-- The keys that show the newest message. -/
def goesDown (code : KeyCode) : Bool := code = .char 'G' || code = .finish

theorem scrollBy_of_goesDown {code : KeyCode} (h : goesDown code = true) (back : Nat) :
    scrollBy code back = 0 := by
  simp only [goesDown, Bool.or_eq_true, decide_eq_true_eq] at h
  rcases h with rfl | rfl <;> rfl

theorem scrollBy_of_scrollsUp {code : KeyCode} (h : scrollsUp code = true) (back : Nat) :
    min (back + 1) (coordinateValues - 1) ≤ scrollBy code back := by
  simp only [scrollsUp, Bool.or_eq_true, decide_eq_true_eq] at h
  rcases h with (rfl | rfl) | rfl <;> simp only [scrollBy, scrollOn] <;> omega

/-- No other key scrolls up a page that is not scrolled up. -/
theorem scrollBy_bottom {code : KeyCode} (h : scrollsUp code = false) : scrollBy code 0 = 0 := by
  unfold scrollBy
  split <;> first | rfl | cases h

/-! ## Runs -/

/-- What happens to the page of a chat: a key is pressed, outcomes have been applied to its binding, or it is
drawn. -/
inductive Event
  | press (k : Key)
  | update (b : Binding)
  | draw (b : Binding) (c : Canvas) (r : Rect)

namespace Event

/-- The event is a key that scrolls up. -/
def isUp : Event → Bool
  | .press k => scrollsUp k.code
  | _ => false

/-- The event is a key that shows the newest message. -/
def isDown : Event → Bool
  | .press k => goesDown k.code
  | _ => false

/-- The height of what is drawn is a coordinate. -/
def Sized : Event → Prop
  | .draw _ _ r => r.height < coordinateValues
  | _ => True

/-- The event scrolls up, or leaves the messages and does not draw more rows than a number. -/
def Climbs (data : ChatThread) (height : Nat) : Event → Prop
  | .press k => scrollsUp k.code = true
  | .update b => PageContent.decode ChatThread.read b = some (.ok data)
  | .draw _ _ r => r.height ≤ height

end Event

/-- The page after an event, if it can be drawn. -/
def step (p : ThreadPage) : Event → Except DrawFault ThreadPage
  | .press k => .ok (p.press k).1
  | .update b => .ok { p with content := p.content.updated ChatThread.read b }
  | .draw b c r => (p.draw b c r).map (·.1)

/-- The page after events. -/
def run (p : ThreadPage) (events : List Event) : Except DrawFault ThreadPage := events.foldlM step p

/-- The page that has just been opened. -/
def opened (n : Nat) (title : String) (b : Binding) : ThreadPage := ⟨.mounted ChatThread.read n title b, 0⟩

/-- Whether a page follows the newest message after an event. -/
def followsAfter (follows : Bool) (e : Event) : Bool := e.isDown || follows && !e.isUp

/-- The page follows the newest message: it has not been scrolled up, or not since a key showed the newest
message. -/
def follows (events : List Event) : Bool := events.foldl followsAfter true

/-- A draw keeps the content of a page, and does not scroll it up. If it had messages, it is scrolled up no
farther than it can be. -/
theorem exists_step_draw (p : ThreadPage) (b : Binding) (c : Canvas) (sized : r.height < coordinateValues) :
    ∃ q, p.step (.draw b c r) = .ok q ∧ q.content = p.content ∧ q.scrollBack ≤ p.scrollBack ∧
      ∀ data, p.content.loaded? = some data →
        min p.scrollBack (farthest (lines data.messages).length (r.height - 2)) ≤ q.scrollBack := by
  by_cases filled : ∃ data, p.content.loaded? = some data ∧ data.messages ≠ []
  · obtain ⟨data, loaded, hmessages⟩ := filled
    obtain ⟨d, hdraw, -⟩ := exists_draw loaded hmessages sized b c
    have hstep : p.step (.draw b c r) = .ok { p with scrollBack :=
        (scrollTo p.scrollBack (lines data.messages).length (r.height - 2)).2 } := by
      rw [step, hdraw]
      rfl
    refine ⟨_, hstep, rfl, Nat.min_le_left _ _, fun other hother => ?_⟩
    rw [loaded, Option.some.injEq] at hother
    subst hother
    exact Nat.le_refl _
  · have hnone : ∀ data, p.content.loaded? = some data → data.messages = [] := fun data loaded =>
      not_not.1 fun hmessages => filled ⟨data, loaded, hmessages⟩
    obtain ⟨d, hdraw⟩ := draw_of_no_lines hnone b c r
    exact ⟨p, by rw [step, hdraw]; rfl, rfl, Nat.le_refl _, fun _ _ => Nat.min_le_left _ _⟩

/-- No event fails, and a page that follows the newest message after it is not scrolled up. -/
theorem exists_step (p : ThreadPage) {e : Event} (sized : e.Sized) : ∃ q, p.step e = .ok q ∧
    ∀ follows : Bool, (follows = true → p.scrollBack = 0) → followsAfter follows e = true →
      q.scrollBack = 0 := by
  cases e with
  | press k =>
    refine ⟨_, rfl, fun follows hbottom h => ?_⟩
    rw [press_eq]
    rcases Bool.or_eq_true_iff.1 h with hdown | hkept
    · exact scrollBy_of_goesDown hdown _
    · obtain ⟨hfollows, hup⟩ := Bool.and_eq_true_iff.1 hkept
      rw [hbottom hfollows]
      exact scrollBy_bottom (by simpa only [Event.isUp, Bool.not_eq_true'] using hup)
  | update b =>
    refine ⟨_, rfl, fun follows hbottom h => hbottom ?_⟩
    simpa [followsAfter, Event.isDown, Event.isUp] using h
  | draw b c r =>
    obtain ⟨q, hq, -, hle, -⟩ := p.exists_step_draw b c sized
    refine ⟨q, hq, fun follows hbottom h => ?_⟩
    have hfollows : follows = true := by simpa [followsAfter, Event.isDown, Event.isUp] using h
    exact Nat.le_zero.1 (hbottom hfollows ▸ hle)

/-- No events fail, and a page that follows the newest message after them is not scrolled up. -/
theorem exists_run (p : ThreadPage) {events : List Event} (sized : ∀ e ∈ events, e.Sized) :
    ∃ q, p.run events = .ok q ∧ ∀ follows : Bool, (follows = true → p.scrollBack = 0) →
      events.foldl followsAfter follows = true → q.scrollBack = 0 := by
  induction events generalizing p with
  | nil => exact ⟨p, rfl, fun follows hbottom h => hbottom h⟩
  | cons e rest ih =>
    obtain ⟨hfirst, hrest⟩ := List.forall_mem_cons.1 sized
    obtain ⟨p', hstep, hkept⟩ := p.exists_step hfirst
    obtain ⟨q, hrun, hq⟩ := ih p' hrest
    refine ⟨q, ?_, fun follows hbottom h => hq _ (hkept follows hbottom) h⟩
    rw [run, List.foldlM_cons, hstep]
    exact hrun

/-- By keys that scroll up, a page is scrolled up by a line each at least, as far as it can be. -/
theorem climb {data : ChatThread} {height : Nat} (tall : height < coordinateValues) {events : List Event}
    (climbs : ∀ e ∈ events, e.Climbs data height) (p : ThreadPage) (loaded : p.content.loaded? = some data) :
    ∃ q, p.run events = .ok q ∧ q.content.loaded? = some data ∧
      min (p.scrollBack + events.countP Event.isUp) (farthest (lines data.messages).length (height - 2)) ≤
        q.scrollBack := by
  induction events generalizing p with
  | nil => exact ⟨p, rfl, loaded, Nat.min_le_left _ _⟩
  | cons e rest ih =>
    obtain ⟨hfirst, hrest⟩ := List.forall_mem_cons.1 climbs
    have hfarthest : farthest (lines data.messages).length (height - 2) ≤ coordinateValues - 1 :=
      Nat.le_sub_one_of_lt (Nat.lt_of_le_of_lt (Nat.sub_le _ _) (Nat.mod_lt _ (by decide)))
    obtain ⟨p', hstep, hloaded, hback⟩ : ∃ p', p.step e = .ok p' ∧ p'.content.loaded? = some data ∧
        min (p.scrollBack + if e.isUp then 1 else 0)
          (farthest (lines data.messages).length (height - 2)) ≤ p'.scrollBack := by
      cases e with
      | press k =>
        have hup : scrollsUp k.code = true := hfirst
        refine ⟨_, rfl, ?_, ?_⟩
        · rwa [press_eq]
        · have hscroll := scrollBy_of_scrollsUp hup p.scrollBack
          rw [press_eq, Event.isUp, hup, if_pos rfl]
          dsimp only
          omega
      | update b =>
        refine ⟨_, rfl, ?_, Nat.min_le_left _ _⟩
        have hdecode : PageContent.decode ChatThread.read b = some (.ok data) := hfirst
        rw [PageContent.updated, hdecode]
        rfl
      | draw b c r =>
        have hle : r.height ≤ height := hfirst
        obtain ⟨q, hq, hcontent, -, hback⟩ := p.exists_step_draw b c (Nat.lt_of_le_of_lt hle tall)
        refine ⟨q, hq, by rwa [hcontent], ?_⟩
        have hmore : farthest (lines data.messages).length (height - 2) ≤
            farthest (lines data.messages).length (r.height - 2) :=
          Nat.sub_le_sub_left (Nat.sub_le_sub_right hle 2) _
        have hkept := hback data loaded
        simp only [Event.isUp, Bool.false_eq_true, if_false, Nat.add_zero]
        omega
    obtain ⟨q, hrun, hq, hmin⟩ := ih hrest p' hloaded
    refine ⟨q, ?_, hq, ?_⟩
    · rw [run, List.foldlM_cons, hstep]
      exact hrun
    · rw [List.countP_cons]
      omega

/-- After any keys, new messages and draws of any sizes, none of which fails: the page is not scrolled up if it
has just been opened or a key has shown the newest message since it was scrolled up. If it has messages, the
subtraction that finds the first line on display does not fail, and a draw shows the lines from there on, as many
as it has rows if there are so many. A page that is not scrolled up shows the last ones if a coordinate holds
their number, and ends before the last one otherwise. By keys that scroll up, as many as there are lines above,
the first ones are shown. -/
theorem newest_at_bottom (n : Nat) (title : String) (b₀ : Binding) {events : List Event}
    (sized : ∀ e ∈ events, e.Sized) : ∃ p, (opened n title b₀).run events = .ok p ∧
      (follows events = true → p.scrollBack = 0) ∧
      ∀ data, p.content.loaded? = some data → data.messages ≠ [] →
      ∀ (b : Binding) (c : Canvas) (r : Rect), r.height < coordinateValues →
        let all := lines data.messages
        let rows := r.height - 2
        (∃ offset, offsetChecked p.scrollBack all.length rows = .ok offset ∧
          p.Shows b c r (window offset rows all) ∧
          (window offset rows all).length = min rows all.length ∧
          (p.scrollBack = 0 → all.length < coordinateValues →
            window offset rows all = all.drop (all.length - rows)) ∧
          (p.scrollBack = 0 → (offset + rows < all.length ↔ coordinateValues ≤ all.length))) ∧
        ∀ more, (∀ e ∈ more, e.Climbs data r.height) →
          farthest all.length rows ≤ more.countP Event.isUp →
          ∃ q, p.run more = .ok q ∧ q.Shows b c r (all.take rows) := by
  obtain ⟨p, hrun, hfollows⟩ := (opened n title b₀).exists_run sized
  refine ⟨p, hrun, hfollows true fun _ => rfl, fun data loaded filled b c r tall => ?_⟩
  intro all rows
  have hrows : rows < coordinateValues := Nat.lt_of_le_of_lt (Nat.sub_le _ _) tall
  refine ⟨⟨_, offsetChecked_eq _ _ _, ?_, length_window _ _ _, fun bottom few => ?_, fun bottom => ?_⟩,
    fun more climbs high => ?_⟩
  · obtain ⟨d, hdraw, hcells⟩ := exists_draw loaded filled tall b c
    exact ⟨_, d, hdraw, hcells⟩
  · rw [bottom, window_of_bottom few]
  · rw [bottom, scrollTo_bottom hrows]
  · obtain ⟨q, hq, hloaded, hback⟩ := climb tall climbs p loaded
    have htop : (scrollTo q.scrollBack all.length rows).1 = 0 := by
      refine scrollTo_top ?_
      rw [Nat.min_eq_right (Nat.le_add_left_of_le high)] at hback
      exact hback
    obtain ⟨d, hdraw, hcells⟩ := exists_draw hloaded filled tall b c
    refine ⟨q, hq, _, d, hdraw, fun x y hx hy hinside => ?_⟩
    have hshown : q.linesShown data r = all.take rows := congrArg (fun n => window n rows all) htop
    rw [hcells x y hx hy hinside, hshown]

/-- A message of the other side. -/
def message (text : String) : Snapshot.Message := ⟨"", none, text, none, false⟩

/-- The snapshot of a chat with three messages. -/
def threeMessages : Binding :=
  .mounted "chat" (some ⟨"chat", .obj [("messages", .arr (["one", "two", "three"].map fun text =>
    .obj [("text", .str text)]))], 0⟩)

/-- The three messages take nine lines. Of these, four rows show the last four, and the first four after five
keys that scroll up. -/
theorem nine_lines_in_four_rows :
    let r : Rect := ⟨0, 1, 20, 6⟩
    let c := Canvas.blank 20 8
    let all := lines [message "one", message "two", message "three"]
    let loading := Event.draw (.mounted "chat" none) c r
    (∀ e ∈ [loading, .update threeMessages, .press (.plain 'k'), .press (.plain 'G')], e.Sized) ∧
    all.length = 9 ∧ ∃ p, (opened 0 "Anna" (.mounted "chat" none)).run
        [loading, .update threeMessages, .press (.plain 'k'), .press (.plain 'G')] = .ok p ∧
      p.Shows threeMessages c r (all.drop 5) ∧
      ∃ q, p.run (List.replicate 5 (.press { code := .up })) = .ok q ∧
        q.Shows threeMessages c r (all.take 4) := by
  intro r c all loading
  have hsized : ∀ e ∈ [loading, .update threeMessages, .press (.plain 'k'), .press (.plain 'G')], e.Sized := by
    simp only [List.forall_mem_cons, List.not_mem_nil, false_imp_iff, implies_true, and_true]
    exact ⟨(by decide : 6 < coordinateValues), trivial, trivial, trivial⟩
  obtain ⟨p, hrun, hfollows, hshows⟩ := newest_at_bottom 0 "Anna" (.mounted "chat" none) hsized
  have hp : p = ⟨⟨0, "Anna", PageContent.decode ChatThread.read threeMessages⟩, 0⟩ :=
    (Except.ok.inj hrun).symm
  have hloaded : p.content.loaded? = some ⟨[message "one", message "two", message "three"]⟩ := by
    rw [hp]
    decide +kernel
  have hcount : all.length = 9 := by decide +kernel
  obtain ⟨⟨offset, -, hwindow, -, hlast, -⟩, hfirst⟩ :=
    hshows _ hloaded (List.cons_ne_nil _ _) threeMessages c r (by decide)
  rw [hlast (hfollows (by decide)) (by decide +kernel)] at hwindow
  obtain ⟨q, hq, hshown⟩ := hfirst (List.replicate 5 (.press { code := .up }))
    (fun e he => (List.eq_of_mem_replicate he) ▸ rfl) (by decide +kernel)
  exact ⟨hsized, hcount, p, hrun, hwindow, q, hq, hshown⟩

/-- Of 65537 lines, the first one is shown in place of the last. -/
theorem newest_hidden : ¬ ∀ (p : ThreadPage) (data : ChatThread) (b : Binding) (c : Canvas) (r : Rect),
    p.content.loaded? = some data → data.messages ≠ [] → p.scrollBack = 0 → 3 ≤ r.height →
    r.height < coordinateValues →
    p.Shows b c r ((lines data.messages).drop ((lines data.messages).length - (r.height - 2))) := by
  intro claim
  let messages := List.replicate 32767 (message "") ++ [message "newest"]
  let p : ThreadPage := ⟨⟨0, "Anna", some (.ok ⟨messages⟩)⟩, 0⟩
  let older := lines (List.replicate 32767 (message "")) ++ (messageLines (message "newest")).take 2
  have hlines : lines messages = older ++ [[]] := by
    rw [lines_append, List.append_assoc]
    exact congrArg _ (by decide +kernel)
  have holder : older.length = 65536 := by
    rw [List.length_append, length_lines_replicate]
    decide +kernel
  have hlength : (lines messages).length = 65537 := by
    rw [hlines, List.length_append, holder]
    rfl
  have hfirst : (lines messages).take 1 = [[Span.styled "client" (.strong .cyan)]] := by
    rw [lines_append, List.replicate_succ]
    rfl
  have filled : messages ≠ [] := List.append_ne_nil_of_right_ne_nil _ (List.cons_ne_nil _ _)
  let r : Rect := ⟨0, 0, 3, 3⟩
  obtain ⟨d, hdraw, hcells⟩ := exists_draw (p := p) (r := r) rfl filled (by decide) threeMessages (.blank 3 3)
  obtain ⟨q, d', hdraw', hclaim⟩ := claim p ⟨messages⟩ threeMessages (.blank 3 3) r rfl filled rfl (by decide)
    (by decide)
  obtain ⟨-, rfl⟩ := Prod.mk.inj (Except.ok.inj (hdraw.symm.trans hdraw'))
  have hseen : p.linesShown ⟨messages⟩ r = [[Span.styled "client" (.strong .cyan)]] := by
    rw [linesShown, hlength]
    exact hfirst
  have hlast : (lines messages).drop ((lines messages).length - (r.height - 2)) = [[]] := by
    rw [hlength, hlines]
    exact List.drop_left' holder
  -- In the upper left cell of the inner part, the author of the first message is seen, and not an empty line.
  have hhere := (hcells 1 1 (by decide) (by decide) (by decide)).symm.trans
    (hclaim 1 1 (by decide) (by decide) (by decide))
  rw [hseen, hlast] at hhere
  exact absurd hhere (by decide +kernel)

end ThreadPage

end Lookout
