import Lookout.Proofs.World.Ledger
import Lookout.Proofs.World.Sessions

/-!
# Reachable worlds

A world is reachable if moves lead to it from the start of a clock. What holds of every reachable world:
its fetches are accounted for, every binding follows a history, and the requests that have been made are
those of the fetches that have begun.

* **`Reached.isLive_move`** — only a mount brings a binding to life, and only an unmount ends it.
* **`Reached.asked_eq`** — the requests that have been made are those of the fetches that have begun.
* **`Reached.isAborted`** — the timer of a binding that is gone has been aborted.
-/

namespace Lookout

namespace World

/-- Moves lead to the world from the start of a clock. -/
inductive Reached : World → Prop
  | start (calendar : Int) (space : String) (storage : Cache.Storage) (servers : Servers) :
      Reached (start calendar space storage servers)
  | move {w : World} (h : Reached w) (m : Move) : Reached (w.move m)

/-- The binding of a number is there and has not been unmounted. -/
def isLive (w : World) (n : Nat) : Bool := (w.binding? n).any (·.isMounted)

theorem Recorded.isLive {w : World} {n : Nat} {h : Option History} (r : Recorded w n h) :
    w.isLive n = h.any (!·.gone) := by
  unfold Recorded at r
  unfold World.isLive
  generalize w.binding? n = b? at r ⊢
  cases r with
  | none => rfl
  | some f => exact f.shows.isMounted

/-- The requests that a move makes are those of the fetch that it begins, if any. -/
theorem Effect.begun {w : World} {m : Move} {b : Books} (e : Effect w m b) :
    b.begun = w.begun ∧ b.asked = w.asked ∨
      ∃ f, b.begun = f :: w.begun ∧ b.asked = f.requests ++ w.asked ∧ f.job ∈ w.jobs ∧
        f.job.stage = .spawned := by
  cases e with
  | rests | mounts | refreshes | unmounts | sleeps | setsOut | fetches | ends => exact .inl ⟨rfl, rfl⟩
  | begins waits fresh | answers waits fresh => exact .inr ⟨_, rfl, rfl, waits, fresh⟩

namespace Reached

variable {w : World}

theorem run (h : Reached w) (moves : List Move) : Reached (w.run moves) :=
  run_invariant (fun _ m hv => hv.move m) h moves

theorem orderly (h : Reached w) : Orderly w := by
  induction h with
  | start calendar space storage servers => exact orderly_start calendar space storage servers
  | move h m ih => exact ih.move m

/-- Every binding follows a history. -/
theorem recorded (h : Reached w) (n : Nat) : ∃ history, Recorded w n history := by
  induction h with
  | start calendar space storage servers => exact ⟨none, recorded_start calendar space storage servers n⟩
  | @move w h m ih =>
    obtain ⟨history, r⟩ := ih
    exact ⟨record n w history m, r.move h.orderly.accounts m⟩

/-- The requests that have been made are those of the fetches that have begun. -/
theorem asked_eq (h : Reached w) : w.asked = w.begun.flatMap (·.requests) := by
  induction h with
  | start => rfl
  | @move w h m ih =>
    have hbegun : (w.move m).begun = (w.move m).books.begun := rfl
    have hasked : (w.move m).asked = (w.move m).books.asked := rfl
    rw [hbegun, hasked]
    rcases (effect_move w m).begun with ⟨hsame, hnone⟩ | ⟨f, hone, hmore, -⟩
    · rw [hsame, hnone, ih]
    · rw [hone, hmore, ih, List.flatMap_cons]

/-- Only a mount brings a binding to life, and only an unmount ends it. -/
theorem isLive_move (h : Reached w) (m : Move) (n : Nat) : (w.move m).isLive n =
    match m with
    | .mount _ _ => decide (n = w.mounted.length) || w.isLive n
    | .unmount k => decide (k ≠ n) && w.isLive n
    | _ => w.isLive n := by
  obtain ⟨history, r⟩ := h.recorded n
  rw [(r.move h.orderly.accounts m).isLive, r.isLive]
  cases m with
  | mount policy sections =>
    simp only [record]
    split
    · next hn => simp [hn]
    · next hn => simp [hn]
  | refresh k =>
    simp only [record]
    split
    · cases history with
      | none => rfl
      | some h => cases hgone : h.gone <;> simp [hgone]
    · rfl
  | poll k q =>
    simp only [record]
    split
    · cases history <;> rfl
    · rfl
  | unmount k =>
    simp only [record]
    split
    · next hk => cases history <;> simp [hk]
    · next hk => simp [hk]
  | goOn | clock | calendar | line | serve | disturb => rfl

/-- A binding that is gone has no outcomes that wait for it. -/
theorem inbox_eq_nil (h : Reached w) {n : Nat} {b : Binding} (there : w.binding? n = some b)
    (gone : b.state = .terminal) : b.inbox = [] := by
  obtain ⟨history, r⟩ := h.recorded n
  unfold Recorded at r
  rw [there] at r
  cases r with
  | some f =>
    refine f.emptied ?_
    rw [← History.state_eq_terminal_iff, ← f.shows.state]
    exact gone

/-- The timer of a binding that is not live has been aborted. -/
theorem isAborted (h : Reached w) {n : Nat} (gone : w.isLive n = false) {s : Session}
    (there : w.session? n = some s) : Timer.IsAborted s.timer := by
  induction h generalizing s with
  | start => cases there
  | @move w h m ih =>
    rw [h.isLive_move] at gone
    cases hbefore : w.session? n with
    | none =>
      -- The binding has just been mounted, so it is live.
      obtain ⟨rfl, policy, sections, rfl⟩ := mount_of_session? hbefore there
      simp at gone
    | some s₀ =>
      obtain ⟨s', hs', hstep⟩ :=
        session_move h.orderly.accounts hbefore (h.orderly.attended n s₀ hbefore) m
      obtain rfl := Option.some.inj (there.symm.trans hs')
      rcases hstep with ⟨hstays, hstep⟩ | ⟨-, rfl⟩
      · have hdead : w.isLive n = false := by
          cases m with
          | mount policy sections => exact (Bool.or_eq_false_iff.1 gone).2
          | unmount k =>
            have hk : k ≠ n := fun hk => hstays (hk ▸ rfl)
            simpa [hk] using gone
          | refresh | poll | goOn | clock | calendar | line | serve | disturb => exact gone
        exact hstep.isAborted (ih hdead hbefore)
      · exact Timer.isAborted_abort _

end Reached

end World

end Lookout
