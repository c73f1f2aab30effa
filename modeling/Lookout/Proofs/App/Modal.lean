import Lookout.Proofs.App.Typing
import Lookout.Proofs.Input.Choice

/-!
# The open palette

An open palette comes before everything else: it uses up each key that is pressed, whatever the key means
to the page below, to its filter or to the notifications. Only c with Control goes past it, and quits. So
nothing else changes until Enter closes the palette, and then what happens is the one command that was
handed in.

* **`Palette.press_used`**, **`Palette.isOpen_press`** — no other key is left to others, or closes the palette.
* **`palette_modal`** — what keys do to a program while its palette is open.
-/

namespace Lookout

/-- The key that quits whatever is shown: c with Control. -/
def Key.quits (k : Key) : Bool := k.isCharacter 'c' && k.control

/-- The key does not end the input of a command: it does not quit, hand in or give up. -/
def Key.Continues (k : Key) : Prop := k.quits = false ∧ k.code ≠ .enter ∧ k.code ≠ .escape

instance (k : Key) : Decidable k.Continues := inferInstanceAs (Decidable (_ ∧ _))

namespace Palette

variable {p : Palette} {k : Key}

/-- An open palette uses up every key but Enter: it leaves none to others and hands in nothing. -/
theorem press_used (isOpen : p.isOpen = true) (other : k.code ≠ .enter) :
    (p.press k).2 = .handled ∨ (p.press k).2 = .cancelled := by
  rw [press, if_pos isOpen]
  unfold pressOpen
  split
  case h_1 => exact .inr rfl
  case h_2 code => exact absurd code other
  case h_7 => split <;> exact .inl rfl
  all_goals exact .inl rfl

/-- An open palette is closed by Enter and Escape only. -/
theorem isOpen_press (isOpen : p.isOpen = true) (enter : k.code ≠ .enter) (escape : k.code ≠ .escape) :
    (p.press k).1.isOpen = true := by
  rw [press, if_pos isOpen]
  unfold pressOpen
  split
  case h_1 code => exact absurd code escape
  case h_2 code => exact absurd code enter
  case h_3 | h_4 => exact (p.isOpen_move fun _ => 1).trans isOpen
  case h_5 | h_6 => exact (p.isOpen_move (· - 1)).trans isOpen
  case h_7 => split <;> exact isOpen

end Palette

namespace App

variable {a : App} {k : Key}

/-- C with Control quits, and that is all it does. -/
theorem press_quits (a : App) (quits : k.quits = true) : a.press k = { a with hasQuit := true } := if_pos quits

/-- Every other key than Enter changes nothing but the open palette. -/
theorem press_used (isOpen : a.palette.isOpen = true) (stays : k.quits = false) (other : k.code ≠ .enter) :
    a.press k = { a with palette := (a.palette.press k).1 } := by
  have hquits : ¬ (k.isCharacter 'c' && k.control) = true := by
    rw [show (k.isCharacter 'c' && k.control) = false from stays]
    exact Bool.false_ne_true
  rw [press, if_neg hquits]
  rcases hpress : a.palette.press k with ⟨p, result⟩
  have hused := Palette.press_used isOpen other
  rw [hpress] at hused
  rcases hused with rfl | rfl <;> rfl

/-- Enter closes the open palette and runs the command that it hands in. -/
theorem press_handsIn (isOpen : a.palette.isOpen = true) (enter : k.code = .enter) :
    a.press k = { a with palette := a.palette.reset false }.execute a.palette.choice := by
  have hkey : k.isCharacter 'c' = false := by simp [Key.isCharacter, enter]
  simp only [press, hkey, Bool.false_and, Bool.false_eq_true, if_false, Palette.press_submit isOpen enter]

/-- While keys go into the open palette, nothing but the palette changes, and it stays open. -/
theorem foldl_press (isOpen : a.palette.isOpen = true) {keys : List Key} (go : ∀ k ∈ keys, k.Continues) :
    keys.foldl press a = { a with palette := a.palette.after keys } ∧
      (a.palette.after keys).isOpen = true := by
  induction keys generalizing a with
  | nil => exact ⟨rfl, isOpen⟩
  | cons k keys ih =>
    obtain ⟨hstays, henter, hescape⟩ := go k List.mem_cons_self
    rw [List.foldl_cons, press_used isOpen hstays henter]
    exact ih (a := { a with palette := (a.palette.press k).1 })
      (Palette.isOpen_press isOpen henter hescape) fun k' hk' => go k' (List.mem_cons_of_mem k hk')

/-- Whatever the program shows, c with Control quits and changes nothing else. While the palette is open,
every other key but Enter leaves the world with its requests, the pages and what is selected, scrolled and
typed in them, the notifications and the program's end as they are. So they are left by all the keys of an
input: Escape gives it up and closes the palette, and Enter closes the palette and runs the one command that
was handed in. -/
theorem palette_modal (a : App) :
    (∀ k : Key, k.quits = true → a.press k = { a with hasQuit := true }) ∧
    (a.palette.isOpen = true →
      (∀ k : Key, k.quits = false → k.code ≠ .enter →
        a.press k = { a with palette := (a.palette.press k).1 }) ∧
      ∀ keys : List Key, (∀ k ∈ keys, k.Continues) →
        let p := a.palette.after keys
        p.isOpen = true ∧ keys.foldl press a = { a with palette := p } ∧
        (∀ escape : Key, escape.code = .escape →
          (keys ++ [escape]).foldl press a = { a with palette := p.reset false }) ∧
        ∀ enter : Key, enter.code = .enter → ∃ command,
          p.press enter = (p.reset false, .submitted command) ∧
            (keys ++ [enter]).foldl press a = { a with palette := p.reset false }.execute command) := by
  refine ⟨fun k quits => press_quits a quits, fun isOpen =>
    ⟨fun k stays other => press_used isOpen stays other, fun keys go => ?_⟩⟩
  obtain ⟨hkeys, hopen⟩ := foldl_press isOpen go
  refine ⟨hopen, hkeys, fun escape code => ?_, fun enter code => ?_⟩
  · have hstays : escape.quits = false := by simp [Key.quits, Key.isCharacter, code]
    have hother : escape.code ≠ .enter := by simp [code]
    rw [List.foldl_append, hkeys, List.foldl_cons, List.foldl_nil, press_used hopen hstays hother]
    dsimp only
    rw [Palette.press_escape hopen code]
  · refine ⟨(a.palette.after keys).choice, Palette.press_submit hopen code, ?_⟩
    rw [List.foldl_append, hkeys, List.foldl_cons, List.foldl_nil, press_handsIn hopen code]

/-- A program with a warning, a filter that is open and the palette open above it. -/
def covered : App := filtering.press (.plain ':')

/-- The keys that dismiss a notification, move the selection, open a filter, give up a line and leave a page
are used up by the palette; a command that is typed then is run. -/
theorem shortcuts_covered :
    let keys : List Key := [.plain 'x', { code := .down }, .plain '/', { code := .char 'u', control := true },
      .plain 'q', { code := .pageUp }]
    let enter : Key := { code := .enter }
    let interrupt : Key := { code := .char 'c', control := true }
    covered.palette.isOpen = true ∧ (∀ k ∈ keys, k.Continues) ∧
    keys.foldl press covered = { covered with palette := covered.palette.after keys } ∧
    (covered.palette.after keys).editor.text = ['q'] ∧
    covered.press interrupt = { covered with hasQuit := true } ∧
    covered.hasQuit = false ∧ ((keys ++ [enter]).foldl press covered).hasQuit = true := by
  intro keys enter interrupt
  have hopen : covered.palette.isOpen = true := by decide +kernel
  have hgo : ∀ k ∈ keys, k.Continues := by decide
  obtain ⟨hquits, hrest⟩ := palette_modal covered
  obtain ⟨-, hkeys, -, -⟩ := (hrest hopen).2 keys hgo
  exact ⟨hopen, hgo, hkeys, by decide +kernel, hquits _ rfl, by decide +kernel, by decide +kernel⟩

end App

end Lookout
