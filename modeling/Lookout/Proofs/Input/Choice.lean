import Lookout.Proofs.Input.Editing
import Mathlib.Logic.Function.Iterate

/-!
# What the palette selects

Whatever has been typed, the number of the selected suggestion is one of a suggestion, or the first if
there is none: the keys that change the text select the first suggestion again, and those that move the
selection go round. So what Enter hands in is a suggestion whenever there is one.

* **`Selects.press`** — every key leaves a suggestion selected.
* **`move_round`** — to go on as often as there are suggestions leads back.
* **`choice_of_selects`** — what is handed in is the selected suggestion, or the text if there is none.
* **`selection_in_line`** — what the palette selects and hands in after any keys.
-/

namespace Lookout

theorem LineEditor.press_fst_of_not_consumed {e : LineEditor} {k : Key} (h : (e.press k).2 ≠ .consumed) :
    (e.press k).1 = e := by
  unfold press at h ⊢
  split
  · rfl
  · rfl
  · split
    · simp_all
    · rfl

namespace Palette

/-- The palette after keys. -/
def after (p : Palette) (keys : List Key) : Palette := keys.foldl (fun p k => (p.press k).1) p

/-- A suggestion is selected, or there is none and the number is that of the first. -/
def Selects (p : Palette) : Prop :=
  p.selected < p.suggestions.length ∨ p.suggestions = [] ∧ p.selected = 0

/-- The palette with the next suggestion selected, and the first one behind the last. -/
def next (p : Palette) : Palette := p.move fun _ => 1

/-- The palette with the suggestion before selected, and the last one in front of the first. -/
def previous (p : Palette) : Palette := p.move (· - 1)

variable {p : Palette}

/-! ## Keys -/

@[simp] theorem after_nil (p : Palette) : p.after [] = p := rfl

@[simp] theorem after_cons (p : Palette) (k : Key) (keys : List Key) :
    p.after (k :: keys) = (p.press k).1.after keys := rfl

@[simp] theorem after_append (p : Palette) (keys more : List Key) :
    p.after (keys ++ more) = (p.after keys).after more := List.foldl_append

theorem press_next (isOpen : p.isOpen = true) {k : Key} (code : k.code = .tab ∨ k.code = .down) :
    p.press k = (p.next, .handled) := by
  rcases code with code | code <;> simp only [press, isOpen, if_true, pressOpen, code, next]

theorem press_previous (isOpen : p.isOpen = true) {k : Key} (code : k.code = .backTab ∨ k.code = .up) :
    p.press k = (p.previous, .handled) := by
  rcases code with code | code <;> simp only [press, isOpen, if_true, pressOpen, code, previous]

theorem press_submit (isOpen : p.isOpen = true) {k : Key} (code : k.code = .enter) :
    p.press k = (p.reset false, .submitted p.choice) := by
  simp only [press, isOpen, if_true, pressOpen, code]

theorem press_escape (isOpen : p.isOpen = true) {k : Key} (code : k.code = .escape) :
    p.press k = (p.reset false, .cancelled) := by
  simp only [press, isOpen, if_true, pressOpen, code]

theorem press_open (closed : p.isOpen = false) {k : Key} (colon : k.isCharacter ':' = true) :
    p.press k = (p.reset true, .handled) := by
  simp only [press, closed, Bool.false_eq_true, if_false, colon, if_true]

/-- What a key may do: nothing, open or close the palette without a text, move the selection, or change the
text and select the first suggestion. -/
theorem press_cases (p : Palette) (k : Key) :
    (p.press k).1 = p ∨ (∃ isOpen, (p.press k).1 = p.reset isOpen) ∨
      (∃ step, (p.press k).1 = p.move step) ∨ ∃ e, (p.press k).1 = { p with editor := e, selected := 0 } := by
  unfold press
  split
  · unfold pressOpen
    split
    case h_1 | h_2 => exact .inr (.inl ⟨false, rfl⟩)
    case h_3 | h_4 =>
      refine .inr (.inr (.inl ⟨fun _ => 1, ?_⟩))
      dsimp only
    case h_5 | h_6 =>
      refine .inr (.inr (.inl ⟨(· - 1), ?_⟩))
      dsimp only
    · split
      · next e _ => exact .inr (.inr (.inr ⟨e, rfl⟩))
      · next e result hresult heq =>
        have hedit : (p.editor.press k).2 ≠ .consumed := by
          rw [heq]
          exact hresult
        have hsame : e = p.editor := by
          rw [← LineEditor.press_fst_of_not_consumed hedit, heq]
        rw [hsame]
        exact .inl rfl
  · split
    · exact .inr (.inl ⟨true, rfl⟩)
    · exact .inl rfl

/-! ## Moves -/

theorem move_of_none (h : p.suggestions.length = 0) (step : Nat → Nat) : p.move step = p := by
  simp only [move, h, if_true]

theorem move_of_some (h : p.suggestions.length ≠ 0) (step : Nat → Nat) : p.move step =
    { p with selected := (p.selected + step p.suggestions.length) % p.suggestions.length } := by
  simp only [move, h, if_false]

/-- To move the selection changes nothing else. -/
theorem move_eq (p : Palette) (step : Nat → Nat) : ∃ n, p.move step = { p with selected := n } := by
  by_cases h : p.suggestions.length = 0
  · exact ⟨p.selected, move_of_none h step⟩
  · exact ⟨_, move_of_some h step⟩

theorem isOpen_move (p : Palette) (step : Nat → Nat) : (p.move step).isOpen = p.isOpen := by
  obtain ⟨n, h⟩ := p.move_eq step
  rw [h]

theorem suggestions_move (p : Palette) (step : Nat → Nat) : (p.move step).suggestions = p.suggestions := by
  obtain ⟨n, h⟩ := p.move_eq step
  rw [h]
  rfl

/-! ## All keys -/

/-- No key changes the commands. -/
theorem commands_press (p : Palette) (k : Key) : (p.press k).1.commands = p.commands := by
  rcases p.press_cases k with h | ⟨isOpen, h⟩ | ⟨step, h⟩ | ⟨e, h⟩
  · rw [h]
  · rw [h]
    rfl
  · obtain ⟨n, hmove⟩ := p.move_eq step
    rw [h, hmove]
  · rw [h]

theorem commands_after (p : Palette) (keys : List Key) : (p.after keys).commands = p.commands := by
  induction keys generalizing p with
  | nil => rfl
  | cons k keys ih => rw [after_cons, ih, commands_press]

/-- Without a colon a closed palette takes no notice. -/
theorem after_of_closed (closed : p.isOpen = false) {keys : List Key}
    (quiet : ∀ k ∈ keys, k.isCharacter ':' = false) : p.after keys = p := by
  induction keys with
  | nil => rfl
  | cons k keys ih =>
    rw [after_cons, press_closed closed (quiet k List.mem_cons_self)]
    exact ih fun k' hk' => quiet k' (List.mem_cons_of_mem k hk')

/-! ## Every key leaves a suggestion selected -/

theorem selects_of_first (h : p.selected = 0) : p.Selects := by
  unfold Selects
  cases p.suggestions with
  | nil => exact .inr ⟨rfl, h⟩
  | cons c rest => exact .inl (by rw [h]; exact Nat.succ_pos _)

theorem Selects.move (h : p.Selects) (step : Nat → Nat) : (p.move step).Selects := by
  by_cases hcount : p.suggestions.length = 0
  · rwa [move_of_none hcount]
  · refine .inl ?_
    rw [suggestions_move, move_of_some hcount]
    exact Nat.mod_lt _ (Nat.pos_of_ne_zero hcount)

/-- Every key leaves a suggestion selected: one that changes the text selects the first again. -/
theorem Selects.press (h : p.Selects) (k : Key) : (p.press k).1.Selects := by
  rcases p.press_cases k with hpress | ⟨isOpen, hpress⟩ | ⟨step, hpress⟩ | ⟨e, hpress⟩
  · rwa [hpress]
  · rw [hpress]
    exact selects_of_first rfl
  · rw [hpress]
    exact h.move step
  · rw [hpress]
    exact selects_of_first rfl

theorem Selects.after (h : p.Selects) (keys : List Key) : (p.after keys).Selects := by
  induction keys generalizing p with
  | nil => exact h
  | cons k keys ih => exact ih (h.press k)

theorem selects_new (commands : List Command) : (new commands).Selects := selects_of_first rfl

/-- What is handed in is the selected suggestion, or the text if there is none. -/
theorem choice_of_selects (h : p.Selects) :
    (∃ c, p.suggestions[p.selected]? = some c ∧ p.choice = c.name) ∨
      p.suggestions = [] ∧ p.choice = String.ofList (Text.lowercase (Text.trim p.editor.text)) := by
  rcases h with hlt | ⟨hnone, -⟩
  · exact .inl ⟨_, List.getElem?_eq_getElem hlt, by rw [choice, List.getElem?_eq_getElem hlt]⟩
  · exact .inr ⟨hnone, by rw [choice, hnone, List.getElem?_nil]⟩

/-! ## Going round -/

theorem next_eq (h : p.selected < p.suggestions.length) :
    p.next = { p with selected := (p.selected + 1) % p.suggestions.length } :=
  move_of_some (Nat.ne_of_gt (Nat.zero_lt_of_lt h)) _

theorem previous_eq (h : p.selected < p.suggestions.length) :
    p.previous = { p with
      selected := (p.selected + (p.suggestions.length - 1)) % p.suggestions.length } :=
  move_of_some (Nat.ne_of_gt (Nat.zero_lt_of_lt h)) _

theorem next_of_none (h : p.suggestions = []) : p.next = p :=
  move_of_none (by rw [h, List.length_nil]) _

theorem previous_of_none (h : p.suggestions = []) : p.previous = p :=
  move_of_none (by rw [h, List.length_nil]) _

/-- A palette that differs in the selected number only has the same suggestions. -/
theorem suggestions_select (p : Palette) (n : Nat) : { p with selected := n }.suggestions = p.suggestions := rfl

theorem select_lt {n : Nat} (h : n < p.suggestions.length) :
    { p with selected := n }.selected < { p with selected := n }.suggestions.length := h

/-- All the way round and on by `n` is on by `n`. -/
theorem round_mod {i n : Nat} (h : i < n) : (i + 1 + (n - 1)) % n = i := by
  rw [show i + 1 + (n - 1) = i + n by omega, Nat.add_mod_right, Nat.mod_eq_of_lt h]

/-- To go back undoes to go on. -/
theorem previous_next (h : p.Selects) : p.next.previous = p := by
  rcases h with hlt | ⟨hnone, -⟩
  · have hpos : 0 < p.suggestions.length := Nat.zero_lt_of_lt hlt
    rw [next_eq hlt, previous_eq (select_lt (Nat.mod_lt _ hpos))]
    simp only [suggestions_select, Nat.mod_add_mod, round_mod hlt]
  · rw [next_of_none hnone, previous_of_none hnone]

/-- To go on undoes to go back. -/
theorem next_previous (h : p.Selects) : p.previous.next = p := by
  rcases h with hlt | ⟨hnone, -⟩
  · have hpos : 0 < p.suggestions.length := Nat.zero_lt_of_lt hlt
    rw [previous_eq hlt, next_eq (select_lt (Nat.mod_lt _ hpos))]
    simp only [suggestions_select, Nat.mod_add_mod]
    rw [Nat.add_right_comm, round_mod hlt]
  · rw [previous_of_none hnone, next_of_none hnone]

/-- After `n` steps the selection stands `n` places further on. -/
theorem iterate_next (h : p.selected < p.suggestions.length) (n : Nat) :
    next^[n] p = { p with selected := (p.selected + n) % p.suggestions.length } := by
  induction n with
  | zero => rw [Function.iterate_zero, id, Nat.add_zero, Nat.mod_eq_of_lt h]
  | succ n ih =>
    rw [Function.iterate_succ_apply', ih, next_eq (select_lt (Nat.mod_lt _ (Nat.zero_lt_of_lt h)))]
    simp only [suggestions_select, Nat.mod_add_mod, Nat.add_assoc]

/-- To go on as often as there are suggestions leads back. -/
theorem move_round (h : p.Selects) : next^[p.suggestions.length] p = p := by
  rcases h with hlt | ⟨hnone, -⟩
  · rw [iterate_next hlt, Nat.add_mod_right, Nat.mod_eq_of_lt hlt]
  · rw [hnone]
    rfl

/-- To press a key that goes on again and again is to go on as often. -/
theorem after_replicate_next (isOpen : p.isOpen = true) {k : Key} (code : k.code = .tab ∨ k.code = .down)
    (n : Nat) : p.after (List.replicate n k) = next^[n] p := by
  induction n generalizing p with
  | zero => rfl
  | succ n ih =>
    have hopen : p.next.isOpen = true := (isOpen_move p fun _ => 1).trans isOpen
    rw [List.replicate_succ, after_cons, press_next isOpen code, Function.iterate_succ_apply]
    dsimp only
    rw [ih hopen]

/-! ## The selection -/

/-- What an open palette selects, whatever keys have opened it and were pressed since: a suggestion for its
text if there is one. The keys that move the selection undo each other and lead all the way round; Enter
hands in the selected suggestion, and the text only if there is none; Escape hands in nothing. Both close the
palette, and the next colon opens it without a text and with the first suggestion selected. -/
theorem selection_in_line (commands : List Command) (keys : List Key)
    (isOpen : ((new commands).after keys).isOpen = true) :
    let p := (new commands).after keys
    p.suggestions = Command.suggestions commands (String.ofList p.editor.text) ∧
    (p.selected < p.suggestions.length ∨ p.suggestions = [] ∧ p.selected = 0) ∧
    (∀ on back : Key, (on.code = .tab ∨ on.code = .down) → (back.code = .backTab ∨ back.code = .up) →
      p.after [on, back] = p ∧ p.after [back, on] = p ∧
        p.after (List.replicate p.suggestions.length on) = p) ∧
    (∀ enter : Key, enter.code = .enter →
      (∃ c, p.suggestions[p.selected]? = some c ∧ (p.press enter).2 = .submitted c.name) ∨
        p.suggestions = [] ∧ (p.press enter).2 =
          .submitted (String.ofList (Text.lowercase (Text.trim p.editor.text)))) ∧
    (∀ escape : Key, escape.code = .escape → (p.press escape).2 = .cancelled) ∧
    ∀ last : Key, last.code = .enter ∨ last.code = .escape → (p.press last).1.isOpen = false ∧
      ∀ (quiet : List Key) (colon : Key), (∀ k ∈ quiet, k.isCharacter ':' = false) →
        colon.isCharacter ':' = true → p.after (last :: quiet ++ [colon]) =
          { p with editor := .empty, isOpen := true, selected := 0 } := by
  intro p
  have hcommands : p.commands = commands := commands_after (new commands) keys
  have hselects : p.Selects := (selects_new commands).after keys
  have hopen : p.isOpen = true := isOpen
  refine ⟨by rw [suggestions, hcommands], hselects, ?_, ?_, ?_, ?_⟩
  · intro on back hon hback
    have honward : p.next.isOpen = true := (isOpen_move p fun _ => 1).trans hopen
    have hbackward : p.previous.isOpen = true := (isOpen_move p (· - 1)).trans hopen
    refine ⟨?_, ?_, ?_⟩
    · simp only [after_cons, after_nil, press_next hopen hon, press_previous honward hback,
        previous_next hselects]
    · simp only [after_cons, after_nil, press_previous hopen hback, press_next hbackward hon,
        next_previous hselects]
    · rw [after_replicate_next hopen hon, move_round hselects]
  · intro enter henter
    rw [press_submit hopen henter]
    rcases choice_of_selects hselects with ⟨c, hc, hname⟩ | ⟨hnone, htext⟩
    · exact .inl ⟨c, hc, by rw [hname]⟩
    · exact .inr ⟨hnone, by rw [htext]⟩
  · intro escape hescape
    rw [press_escape hopen hescape]
  · intro last hlast
    have hclosed : (p.press last).1 = p.reset false := by
      rcases hlast with hlast | hlast
      · rw [press_submit hopen hlast]
      · rw [press_escape hopen hlast]
    refine ⟨by rw [hclosed]; rfl, fun quiet colon hquiet hcolon => ?_⟩
    have hreset : (p.reset false).isOpen = false := rfl
    rw [List.cons_append, after_cons, hclosed, after_append, after_of_closed hreset hquiet, after_cons,
      press_open hreset hcolon]
    rfl

/-- The palette of the built-in commands after a colon, a letter that three of them have, and Tab. -/
def oneFurther : Palette :=
  (new (Command.builtin ++ [Command.quit])).after [.plain ':', .plain 'i', { code := .tab }]

/-- The second of the commands that the letter stands in is handed in, and not the text. -/
theorem second_handed_in : oneFurther.isOpen = true ∧
    oneFurther.suggestions.map (·.name) = ["hosting", "avito", "quit"] ∧
    (oneFurther.press { code := .enter }).2 = .submitted "avito" ∧
    oneFurther.after (List.replicate 3 { code := .tab }) = oneFurther := by
  have hopen : oneFurther.isOpen = true := by decide +kernel
  have hnames : oneFurther.suggestions.map (·.name) = ["hosting", "avito", "quit"] := by decide +kernel
  have hcount : oneFurther.suggestions.length = 3 := by
    rw [← List.length_map (·.name), hnames]
    rfl
  obtain ⟨-, -, hround, henter, -⟩ := selection_in_line _ _ hopen
  refine ⟨hopen, hnames, ?_, ?_⟩
  · rcases henter { code := .enter } rfl with ⟨c, hc, hresult⟩ | ⟨hnone, -⟩
    · have hselected : oneFurther.selected = 1 := by decide +kernel
      have hname : (oneFurther.suggestions.map (·.name))[oneFurther.selected]? = some c.name := by
        rw [List.getElem?_map]
        exact congrArg (Option.map _) hc
      rw [hnames, hselected] at hname
      have havito : "avito" = c.name := Option.some.inj hname
      rw [havito]
      exact hresult
    · exact absurd hcount (by rw [oneFurther, hnone]; decide)
  · have hback := (hround { code := .tab } { code := .backTab } (.inl rfl) (.inl rfl)).2.2
    rwa [show ((new (Command.builtin ++ [Command.quit])).after
      [.plain ':', .plain 'i', { code := .tab }]).suggestions.length = 3 from hcount] at hback

end Palette

end Lookout
