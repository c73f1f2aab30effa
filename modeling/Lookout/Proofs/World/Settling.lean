import Lookout.Proofs.World.Moments

/-!
# Moments of any length

How a world goes on, told without a limit on the turns of a moment: the tasks in line go on in order
until nothing stands in line, however long that takes, and the clock moves only then. A moment may last
forever, if a timer with an empty interval is answered at once; a world that comes to its end comes to
it in one way.

* **`Runs.unique`** — whatever happens to a world, it comes to the same worlds.
* **`runs_course`** — as long as no interval is empty, it comes to the worlds that are computed.
-/

namespace Lookout

namespace World

/-- The tasks in line go on in order, and those that join the line meanwhile, until nothing stands
there. -/
inductive Settles : World → World → Prop
  | rests {w : World} (empty : w.ready = []) : Settles w w
  | turns {w v : World} {task : Task} {rest : List Task} (line : w.ready = task :: rest)
      (later : Settles ({ w with ready := rest }.runTask task) v) : Settles w v

/-- The clock moves to a time and stops wherever something goes on. -/
inductive Advances (target : Nat) : World → World → Prop
  | arrives {w v : World} (settles : Settles w v) (later : ∀ due ∈ v.dueTimes, target < due) :
      Advances target w { v with now := target }
  | stops {w v u : World} {time : Nat} (settles : Settles w v) (next : v.nextDue? = some time)
      (soon : time ≤ target) (rest : Advances target (v.wake time) u) : Advances target w u

/-- Things happen to a world one after the other, and these are the worlds that it comes to. -/
inductive Runs : World → List Deed → List World → Prop
  | done (w : World) : Runs w [] []
  | acts {w : World} {m : Move} (outside : m.byItself = false) {ds : List Deed} {vs : List World}
      (rest : Runs (w.move m) ds vs) : Runs w (.act m outside :: ds) (w.move m :: vs)
  | advances {w v : World} {millis : Nat} (clock : Advances (w.now + millis) w v) {ds : List Deed}
      {vs : List World} (rest : Runs v ds vs) : Runs w (.advance millis :: ds) (v :: vs)

/-- The worlds that are computed for what happens to a world. -/
def course (w : World) : List Deed → List World
  | [] => []
  | d :: ds => w.deed d :: course (w.deed d) ds

variable {w v u : World} {target : Nat}

/-! ## One way to go on -/

theorem Settles.ready (h : Settles w v) : v.ready = [] := by
  induction h with
  | rests empty => exact empty
  | turns line later ih => exact ih

theorem Settles.unique (h : Settles w v) (h' : Settles w u) : v = u := by
  induction h with
  | rests empty =>
    cases h' with
    | rests => rfl
    | turns line =>
      rw [empty] at line
      cases line
  | turns line later ih =>
    cases h' with
    | rests empty =>
      rw [empty] at line
      cases line
    | turns line' later' =>
      obtain ⟨rfl, rfl⟩ := List.cons.inj (line.symm.trans line')
      exact ih later'

/-- The clock does not both stop and arrive: the next time is not after the one that it moves to. -/
theorem lt_nextDue {time : Nat} (next : v.nextDue? = some time)
    (later : ∀ due ∈ v.dueTimes, target < due) : target < time :=
  later time (List.min?_eq_some_iff.1 next).1

theorem Advances.unique (h : Advances target w v) (h' : Advances target w u) : v = u := by
  induction h with
  | arrives settles later =>
    cases h' with
    | arrives settles' => rw [settles.unique settles']
    | stops settles' next soon =>
      obtain rfl := settles.unique settles'
      exact absurd (lt_nextDue next later) (Nat.not_lt_of_le soon)
  | stops settles next soon rest ih =>
    cases h' with
    | arrives settles' later =>
      obtain rfl := settles.unique settles'
      exact absurd (lt_nextDue next later) (Nat.not_lt_of_le soon)
    | stops settles' next' soon' rest' =>
      obtain rfl := settles.unique settles'
      obtain rfl := Option.some.inj (next.symm.trans next')
      exact ih rest'

/-- Whatever happens to a world, it comes to the same worlds. -/
theorem Runs.unique {ds : List Deed} {vs us : List World} (h : Runs w ds vs) (h' : Runs w ds us) :
    vs = us := by
  induction h generalizing us with
  | done w =>
    cases h'
    rfl
  | acts outside rest ih =>
    cases h' with
    | acts outside' rest' => rw [ih rest']
  | advances clock rest ih =>
    cases h' with
    | advances clock' rest' =>
      obtain rfl := clock.unique clock'
      rw [ih rest']

/-! ## The worlds that are computed -/

theorem settles_settle (o : Orderly w) (p : Paced w) {fuel : Nat} (enough : w.load ≤ fuel) :
    Settles w (settle fuel w) := by
  induction fuel generalizing w with
  | zero =>
    have hnone : w.ready.length = 0 := by
      unfold load at enough
      omega
    exact .rests (List.length_eq_zero_iff.1 hnone)
  | succ fuel ih =>
    unfold settle
    split
    · next hready => exact .rests hready
    · next task rest hready =>
      obtain ⟨horderly, hpaced, hless⟩ := load_turn o p hready
      exact .turns hready (ih horderly hpaced (by omega))

theorem settles_settled (o : Orderly w) (p : Paced w) : Settles w w.settled :=
  settles_settle o p (load_le_turns w)

theorem advances_advanceTo (d : Driven w) {fuel : Nat} (forward : w.now ≤ target)
    (enough : target - w.now < fuel) : Advances target w (advanceTo fuel target w) := by
  induction fuel generalizing w with
  | zero => exact absurd enough (Nat.not_lt_zero _)
  | succ fuel ih =>
    have hsettles : Settles w w.settled := settles_settled d.orderly d.paced
    unfold advanceTo
    dsimp only
    split
    · next time hnext =>
      split
      · next hsoon =>
        obtain ⟨-, hdriven, hlater⟩ := driven_wake d hnext
        have hleft : target - (w.settled.wake time).now < fuel := by
          show target - time < fuel
          omega
        exact .stops hsettles hnext hsoon (ih hdriven hsoon hleft)
      · next hfar =>
        refine .arrives hsettles fun due hmem => ?_
        exact Nat.lt_of_lt_of_le (Nat.lt_of_not_le hfar) ((List.min?_eq_some_iff.1 hnext).2 due hmem)
    · next hnone =>
      have hnil : w.settled.dueTimes = [] := List.min?_eq_none_iff.1 hnone
      refine .arrives hsettles ?_
      rw [hnil]
      exact List.forall_mem_nil _

/-- As long as no interval is empty, a world comes to the worlds that are computed. -/
theorem runs_course (d : Driven w) {ds : List Deed}
    (mounts : ∀ m ∈ acts ds, ∀ q ∈ m.purpose?, 0 < q.policy.interval.nanos) :
    Runs w ds (w.course ds) := by
  induction ds generalizing w with
  | nil => exact .done w
  | cons e ds ih =>
    cases e with
    | act m outside =>
      obtain ⟨hm, hrest⟩ := List.forall_mem_cons.1 mounts
      exact .acts outside (ih (d.act outside hm) hrest)
    | advance millis =>
      have hadvances : Advances (w.now + millis) w (w.advance millis) :=
        advances_advanceTo d (Nat.le_add_right _ _) (by omega)
      exact .advances hadvances (ih (advance_in_time d millis).2 mounts)

end World

end Lookout
