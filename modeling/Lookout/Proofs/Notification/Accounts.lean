import Lookout.Proofs.Notification.Steps
import Mathlib.Data.List.Induction

/-!
# Accounts of notifications

A queue under any calls: notifications are pushed, in any order of the moments at which they were made,
dismissed, and expire. What the queue holds is what has been pushed and not removed by a later call, and
every notification that is gone has left with exactly one call, the first one after its push that removes
it.

* **`run_push`**, **`run_expire`** — at whole milliseconds, calls are what the program does with its queue.
* **`held_append`** — what is held after more calls.
* **`runCalls_cases`** — calls run to their end exactly if no notification overruns the clock.
* **`notifications_accounted`** — what a queue holds and answers after any calls.
* **`longest_stay_unheld`** — a stay with which nothing can be pushed.
-/

namespace Lookout

open Checked

/-! ## Moments in nanoseconds -/

/-- The moment, in nanoseconds, that lies a while behind another one. -/
def Checked.laterAt (moment : Nat) (d : Duration) : Except Crash Nat :=
  if NotificationQueue.endOfClock ≤ moment + d.nanos then .error .clock else .ok (moment + d.nanos)

namespace NotificationQueue

/-- Adds a notification that is made at a moment in nanoseconds, in steps that can fail. -/
def pushAt (q : NotificationQueue) (message : String) (kind : NotificationKind) (moment : Nat)
    (createdAt : Int) : Except Crash NotificationQueue := do
  let nextId ← plus q.nextId 1
  let expiresAt ← laterAt moment q.stay
  .ok { q with
    items := q.items ++ [⟨q.nextId, message, kind, createdAt, expiresAt⟩]
    nextId := nextId }

/-- The notification is due at a moment in nanoseconds. -/
def isDueAt (moment : Nat) (n : Notification) : Bool := n.expiresAt ≤ moment

/-- The numbers of the notifications that leave at a moment in nanoseconds. -/
def dueAt (q : NotificationQueue) (moment : Nat) : List Nat :=
  (q.items.filter (isDueAt moment)).map (·.id)

/-- Removes the notifications that leave at a moment in nanoseconds. -/
def expireAt (q : NotificationQueue) (moment : Nat) : NotificationQueue :=
  { q with items := q.items.filter (!isDueAt moment ·) }

/-! ## Calls -/

/-- What is done to a queue. Moments are in nanoseconds on the clock of the program. -/
inductive Call
  | push (message : String) (kind : NotificationKind) (moment : Nat) (createdAt : Int)
  | dismiss (id : Nat)
  | expire (moment : Nat)
deriving DecidableEq

/-- What a queue answers: the number of a new notification, whether a notification was there to be
dismissed, or the numbers of those that have left. -/
inductive Answer
  | pushed (id : Nat)
  | dismissed (found : Bool)
  | expired (ids : List Nat)
deriving DecidableEq

/-- Runs a call. -/
def Call.run (q : NotificationQueue) : Call → Except Crash (NotificationQueue × Answer)
  | .push message kind moment createdAt =>
    (q.pushAt message kind moment createdAt).map fun r => (r, .pushed q.nextId)
  | .dismiss id => .ok (q.dismiss id, .dismissed (q.has id))
  | .expire moment => .ok (q.expireAt moment, .expired (q.dueAt moment))

/-- Runs calls one after the other. -/
def runCalls (q : NotificationQueue) (calls : List Call) :
    Except Crash (NotificationQueue × List Answer) :=
  calls.foldlM (fun p call => (call.run p.1).map fun r => (r.1, p.2 ++ [r.2])) (q, [])

/-- A notification that the call pushes leaves within the time that the clock counts. -/
def Call.InTime (stay : Duration) : Call → Prop
  | .push _ _ moment _ => moment + stay.nanos < endOfClock
  | _ => True

instance (stay : Duration) : (call : Call) → Decidable (call.InTime stay)
  | .push _ _ moment _ => inferInstanceAs (Decidable (moment + stay.nanos < endOfClock))
  | .dismiss _ | .expire _ => inferInstanceAs (Decidable True)

/-- How many notifications calls push. -/
def pushes : List Call → Nat
  | [] => 0
  | .push .. :: rest => pushes rest + 1
  | _ :: rest => pushes rest

/-! ## What should be held -/

/-- The call removes a notification that is there: it dismisses its number, or lets everything expire that
is due at a moment at which this one is. -/
def Call.removes (n : Notification) : Call → Bool
  | .push .. => false
  | .dismiss id => n.id = id
  | .expire moment => isDueAt moment n

/-- No call removes the notification. -/
def outlasts (calls : List Call) (n : Notification) : Bool := calls.all (!·.removes n)

/-- The notifications that calls push and no later call removes, in the order in which they are pushed;
the first one has the number `id`. -/
def held (stay : Duration) : Nat → List Call → List Notification
  | _, [] => []
  | id, .push message kind moment createdAt :: rest =>
    [⟨id, message, kind, createdAt, moment + stay.nanos⟩].filter (outlasts rest) ++ held stay (id + 1) rest
  | id, _ :: rest => held stay id rest

/-- The numbers of the notifications that leave with a call, going by its answer. -/
def Call.takesOut : Call → Answer → List Nat
  | .dismiss id, .dismissed found => if found then [id] else []
  | .expire _, .expired ids => ids
  | _, _ => []

/-- The numbers of the notifications that leave with calls, in order. -/
def departures (calls : List Call) (answers : List Answer) : List Nat :=
  (calls.zip answers).flatMap fun p => p.1.takesOut p.2

/-- What a queue should answer to a call when it holds some notifications. -/
def Call.answer (items : List Notification) (nextId : Nat) : Call → Answer
  | .push .. => .pushed nextId
  | .dismiss id => .dismissed (items.any (·.id = id))
  | .expire moment => .expired ((items.filter (isDueAt moment)).map (·.id))

/-! ## What is held after more calls -/

theorem outlasts_append (xs ys : List Call) (n : Notification) :
    outlasts (xs ++ ys) n = (outlasts xs n && outlasts ys n) := List.all_append

theorem pushes_append (xs ys : List Call) : pushes (xs ++ ys) = pushes xs + pushes ys := by
  induction xs with
  | nil => exact (Nat.zero_add _).symm
  | cons call rest ih =>
    cases call with
    | push =>
      rw [List.cons_append, pushes, pushes, ih]
      omega
    | dismiss | expire => exact ih

theorem pushes_le (calls : List Call) : pushes calls ≤ calls.length := by
  induction calls with
  | nil => exact Nat.le_refl 0
  | cons call rest ih =>
    cases call with
    | push => exact Nat.succ_le_succ ih
    | dismiss | expire => exact Nat.le_succ_of_le ih

theorem filter_outlasts (xs ys : List Call) (items : List Notification) :
    items.filter (outlasts (xs ++ ys)) = (items.filter (outlasts xs)).filter (outlasts ys) := by
  rw [List.filter_filter]
  refine List.filter_congr fun n _ => ?_
  rw [outlasts_append, Bool.and_comm]

/-- What is held after more calls: what these have not removed, and what they have pushed. -/
theorem held_append (stay : Duration) (id : Nat) (xs ys : List Call) : held stay id (xs ++ ys) =
    (held stay id xs).filter (outlasts ys) ++ held stay (id + pushes xs) ys := by
  induction xs generalizing id with
  | nil => rfl
  | cons call rest ih =>
    cases call with
    | push message kind moment createdAt =>
      have hcount : id + 1 + pushes rest = id + (pushes rest + 1) := by omega
      rw [List.cons_append, held, held, pushes, ih, filter_outlasts, List.filter_append,
        List.append_assoc, hcount]
    | dismiss | expire => exact ih id

/-- The numbers of what is held lie among those that have been given, in increasing order. -/
theorem held_increasing (stay : Duration) (id : Nat) (calls : List Call) :
    (held stay id calls).Pairwise (·.id < ·.id) ∧
      ∀ n ∈ held stay id calls, id ≤ n.id ∧ n.id < id + pushes calls := by
  induction calls generalizing id with
  | nil => exact ⟨.nil, by simp [held]⟩
  | cons call rest ih =>
    cases call with
    | push message kind moment createdAt =>
      obtain ⟨hsorted, hrange⟩ := ih (id + 1)
      have hnew : ∀ n ∈ [(⟨id, message, kind, createdAt, moment + stay.nanos⟩ : Notification)].filter
          (outlasts rest), n.id = id := by
        intro n hn
        rw [List.mem_singleton.1 ((List.mem_filter.1 hn).1)]
      rw [held]
      refine ⟨List.pairwise_append.2 ⟨(List.pairwise_singleton _ _).filter _, hsorted, ?_⟩, ?_⟩
      · intro n hn m hm
        have hid := hnew n hn
        have hle := (hrange m hm).1
        omega
      · intro n hn
        rw [pushes]
        rcases List.mem_append.1 hn with hn | hn
        · have hid := hnew n hn
          omega
        · have hlt := hrange n hn
          omega
    | dismiss | expire => exact ih id

/-- What is pushed before a call and outlasts the calls between the two is the notification of that
number that is held when the call is run. -/
theorem held_pushed (stay : Duration) (front middle : List Call) (message : String)
    (kind : NotificationKind) (moment : Nat) (createdAt : Int) (n : Notification) :
    n ∈ held stay 1 (front ++ .push message kind moment createdAt :: middle) ∧
        n.id = 1 + pushes front ↔
      n = ⟨1 + pushes front, message, kind, createdAt, moment + stay.nanos⟩ ∧
        outlasts middle n = true := by
  rw [held_append, held, List.mem_append, List.mem_append, List.mem_filter, List.mem_filter,
    List.mem_singleton]
  constructor
  · rintro ⟨(⟨hold, -⟩ | hnew | hlater), hid⟩
    · have hlt := ((held_increasing stay 1 front).2 n hold).2
      omega
    · exact hnew
    · have hle := ((held_increasing stay _ middle).2 n hlater).1
      omega
  · rintro ⟨rfl, houtlasts⟩
    exact ⟨.inr (.inl ⟨rfl, houtlasts⟩), rfl⟩

/-! ## One call -/

/-- What a call takes out is what it removes of what is held. -/
theorem mem_takesOut_answer (call : Call) (items : List Notification) (nextId id : Nat) :
    id ∈ call.takesOut (call.answer items nextId) ↔
      ∃ n ∈ items, n.id = id ∧ call.removes n = true := by
  cases call with
  | push => simp [Call.takesOut, Call.removes]
  | dismiss other =>
    simp only [Call.answer, Call.takesOut, Call.removes, List.any_eq_true, decide_eq_true_eq,
      List.mem_ite_nil_right, List.mem_singleton]
    constructor
    · rintro ⟨⟨n, hn, hother⟩, rfl⟩
      exact ⟨n, hn, hother, hother⟩
    · rintro ⟨n, hn, hid, hother⟩
      exact ⟨⟨n, hn, hother⟩, hid.symm.trans hother⟩
  | expire moment =>
    simp only [Call.answer, Call.takesOut, Call.removes, List.mem_map, List.mem_filter]
    constructor
    · rintro ⟨n, ⟨hn, hdue⟩, hid⟩
      exact ⟨n, hn, hid, hdue⟩
    · rintro ⟨n, hn, hid, hdue⟩
      exact ⟨n, ⟨hn, hdue⟩, hid⟩

theorem filter_outlasts_singleton (call : Call) (items : List Notification) :
    items.filter (outlasts [call]) = items.filter (!call.removes ·) :=
  List.filter_congr fun _ _ => Bool.and_true _

/-- The notification of a number is one at most. -/
theorem filter_id_eq {items : List Notification} (increasing : items.Pairwise (·.id < ·.id)) (id : Nat) :
    (items.filter (·.id = id)).map (·.id) = if items.any (·.id = id) then [id] else [] := by
  induction increasing with
  | nil => rfl
  | @cons n rest hlt hrest ih =>
    by_cases hid : n.id = id
    · have hnone : rest.filter (·.id = id) = [] := by
        rw [List.filter_eq_nil_iff]
        intro m hm heq
        have := hlt m hm
        have := of_decide_eq_true heq
        omega
      simp [hid, hnone]
    · simpa [hid] using ih

/-- A call takes out each notification that it removes once, and leaves the others. -/
theorem perm_takesOut {items : List Notification} (increasing : items.Pairwise (·.id < ·.id))
    (call : Call) (nextId : Nat) :
    (call.takesOut (call.answer items nextId) ++ (items.filter (outlasts [call])).map (·.id)).Perm
      (items.map (·.id)) := by
  have hremoved : call.takesOut (call.answer items nextId) =
      (items.filter (call.removes ·)).map (·.id) := by
    cases call with
    | push => simp [Call.takesOut, Call.removes]
    | dismiss id => exact (filter_id_eq increasing id).symm
    | expire => rfl
  rw [hremoved, filter_outlasts_singleton, ← List.map_append]
  exact (List.filter_append_perm _ items).map _

/-- What has become of a queue with a call. -/
structure Ran (call : Call) (q r : NotificationQueue) (answer : Answer) : Prop where
  stay : r.stay = q.stay
  nextId : r.nextId = q.nextId + pushes [call]
  items : r.items = q.items.filter (outlasts [call]) ++ held q.stay q.nextId [call]
  answered : answer = call.answer q.items q.nextId

/-- A call runs unless it pushes a notification that overruns the clock. -/
theorem run_cases {q : NotificationQueue} (room : q.nextId + 1 < wordSize) (call : Call) :
    call.InTime q.stay ∧ (∃ r answer, call.run q = .ok (r, answer)) ∨
      ¬ call.InTime q.stay ∧ call.run q = .error .clock := by
  cases call with
  | push message kind moment createdAt =>
    simp only [Call.InTime, Call.run, pushAt, plus_eq room, ok_bind, laterAt]
    by_cases hlate : endOfClock ≤ moment + q.stay.nanos
    · rw [if_pos hlate]
      exact .inr ⟨Nat.not_lt.2 hlate, rfl⟩
    · rw [if_neg hlate]
      exact .inl ⟨Nat.not_le.1 hlate, _, _, rfl⟩
  | dismiss | expire => exact .inl ⟨trivial, _, _, rfl⟩

/-- At a whole millisecond of the clock, a notification is pushed as the program does it. -/
theorem run_push {q : NotificationQueue} (calm : q.overrun = false) (room : q.nextId + 1 < wordSize)
    {message : String} {kind : NotificationKind} {now : Nat} {createdAt : Int}
    (inTime : Call.InTime q.stay (.push message kind (now * Duration.nanosPerMilli) createdAt)) :
    Call.run q (.push message kind (now * Duration.nanosPerMilli) createdAt) =
      .ok (q.push message kind now createdAt, .pushed q.nextId) := by
  have hcalm : (q.push message kind now createdAt).overrun = false := by
    rw [push, calm, Bool.false_or]
    exact decide_eq_false (Nat.not_le.2 inTime)
  have hpush : q.pushAt message kind (now * Duration.nanosPerMilli) createdAt =
      .ok (q.push message kind now createdAt) :=
    (pushChecked_eq calm room message kind now createdAt).trans (inTime_of_calm hcalm _)
  rw [Call.run, hpush]
  rfl

/-- At a whole millisecond, notifications expire as the program does it. -/
theorem run_expire (q : NotificationQueue) (now : Nat) :
    Call.run q (.expire (now * Duration.nanosPerMilli)) = .ok (q.expire now, .expired (q.due now)) := rfl

theorem ran_of_run {call : Call} {q r : NotificationQueue} {answer : Answer}
    (h : call.run q = .ok (r, answer)) : Ran call q r answer := by
  cases call with
  | push message kind moment createdAt =>
    simp only [Call.run, pushAt, plus, laterAt] at h
    split at h
    · rw [ok_bind] at h
      split at h
      · cases h
      · cases h
        refine ⟨rfl, rfl, ?_, rfl⟩
        have hkept : q.items.filter (outlasts [.push message kind moment createdAt]) = q.items := by
          rw [filter_outlasts_singleton]
          exact List.filter_eq_self.2 fun _ _ => rfl
        rw [hkept]
        rfl
    · cases h
  | dismiss id =>
    cases h
    refine ⟨rfl, rfl, ?_, rfl⟩
    rw [filter_outlasts_singleton]
    simp [dismiss, held, Call.removes]
  | expire moment =>
    cases h
    refine ⟨rfl, rfl, ?_, rfl⟩
    rw [filter_outlasts_singleton]
    simp [expireAt, held, Call.removes]

/-! ## Any calls -/

/-- One more call is run after the others. -/
theorem runCalls_concat (q : NotificationQueue) (calls : List Call) (call : Call) :
    q.runCalls (calls ++ [call]) = (q.runCalls calls >>= fun p =>
      (call.run p.1).map fun r => (r.1, p.2 ++ [r.2])) := by
  simp only [runCalls, List.foldlM_append, List.foldlM_cons, List.foldlM_nil, bind_pure]

/-- What has become of a new queue with some calls. -/
structure Runs (stay : Duration) (calls : List Call) (q : NotificationQueue) (answers : List Answer) :
    Prop where
  stay_eq : q.stay = stay
  nextId_eq : q.nextId = 1 + pushes calls
  items_eq : q.items = held stay 1 calls
  length_eq : answers.length = calls.length
  answered : ∀ front call back, calls = front ++ call :: back →
    answers[front.length]? = some (call.answer (held stay 1 front) (1 + pushes front))
  once : (departures calls answers ++ q.items.map (·.id)).Perm (List.range' 1 (pushes calls))

theorem runs_nil (stay : Duration) : Runs stay [] (new stay) [] where
  stay_eq := rfl
  nextId_eq := rfl
  items_eq := rfl
  length_eq := rfl
  answered := by simp
  once := .nil

variable {stay : Duration} {calls : List Call} {q : NotificationQueue} {answers : List Answer}

theorem departures_concat (same : answers.length = calls.length) (call : Call) (answer : Answer) :
    departures (calls ++ [call]) (answers ++ [answer]) =
      departures calls answers ++ call.takesOut answer := by
  simp [departures, List.zip_append same.symm]

/-- The numbers that a call gives. -/
theorem ids_held_singleton (stay : Duration) (id : Nat) (call : Call) :
    (held stay id [call]).map (·.id) = List.range' id (pushes [call]) := by
  cases call <;> rfl

theorem Runs.concat (h : Runs stay calls q answers) {call : Call} {r : NotificationQueue}
    {answer : Answer} (ran : Ran call q r answer) :
    Runs stay (calls ++ [call]) r (answers ++ [answer]) := by
  have hitems : r.items = held stay 1 (calls ++ [call]) := by
    rw [ran.items, h.items_eq, h.stay_eq, h.nextId_eq, held_append]
  have hanswer : answer = call.answer (held stay 1 calls) (1 + pushes calls) := by
    rw [ran.answered, h.items_eq, h.nextId_eq]
  refine ⟨ran.stay.trans h.stay_eq, ?_, hitems, ?_, ?_, ?_⟩
  · rw [ran.nextId, h.nextId_eq, pushes_append]
    omega
  · rw [List.length_append, List.length_append, h.length_eq]
    rfl
  · intro front c back hsplit
    rcases List.eq_nil_or_concat back with rfl | ⟨middle, last, rfl⟩
    · obtain ⟨rfl, hcall⟩ := List.append_inj' hsplit rfl
      obtain rfl := List.singleton_inj.1 hcall
      rw [← h.length_eq, List.getElem?_concat_length, hanswer]
    · have hlast : calls ++ [call] = (front ++ c :: middle) ++ [last] := hsplit.trans (by simp)
      have hfront : calls = front ++ c :: middle := List.append_inj_left' hlast rfl
      have hlt : front.length < answers.length := by
        rw [h.length_eq, hfront, List.length_append, List.length_cons]
        omega
      rw [List.getElem?_append_left hlt]
      exact h.answered front c middle hfront
  · have hincreasing : q.items.Pairwise (·.id < ·.id) := by
      rw [h.items_eq]
      exact (held_increasing stay 1 calls).1
    have htaken := perm_takesOut hincreasing call q.nextId
    rw [← ran.answered] at htaken
    rw [departures_concat h.length_eq, ran.items, List.map_append, ids_held_singleton, h.nextId_eq,
      pushes_append, ← List.range'_append_1, ← List.append_assoc, List.append_assoc (departures _ _)]
    exact ((htaken.append_left _).trans h.once).append_right _

/-- What has become of a new queue with calls that have run to their end. -/
theorem runs_of_ok {r : NotificationQueue} (h : (new stay).runCalls calls = .ok (r, answers)) :
    Runs stay calls r answers := by
  induction calls using List.reverseRecOn generalizing r answers with
  | nil =>
    cases h
    exact runs_nil stay
  | append_singleton calls call ih =>
    rw [runCalls_concat] at h
    cases hcalls : (new stay).runCalls calls with
    | error crash =>
      rw [hcalls] at h
      cases h
    | ok p =>
      obtain ⟨q, earlier⟩ := p
      rw [hcalls, ok_bind] at h
      cases hcall : call.run q with
      | error crash =>
        rw [hcall] at h
        cases h
      | ok p =>
        obtain ⟨s, answer⟩ := p
        rw [hcall] at h
        cases h
        exact (ih hcalls).concat (ran_of_run hcall)

/-- Calls run to their end exactly if every notification leaves within the time that the clock counts. -/
theorem runCalls_cases (few : calls.length + 1 < wordSize) :
    (∀ call ∈ calls, call.InTime stay) ∧
        (∃ r answers, (new stay).runCalls calls = .ok (r, answers)) ∨
      (∃ call ∈ calls, ¬ call.InTime stay) ∧ (new stay).runCalls calls = .error .clock := by
  induction calls using List.reverseRecOn with
  | nil => exact .inl ⟨by simp, _, _, rfl⟩
  | append_singleton calls call ih =>
    rw [List.length_append, List.length_singleton] at few
    rw [runCalls_concat]
    rcases ih (by omega) with ⟨hinTime, r, answers, hcalls⟩ | ⟨⟨late, hmem, hlate⟩, hcalls⟩
    · have hruns := runs_of_ok hcalls
      have hpushes : pushes calls ≤ calls.length := pushes_le calls
      have hroom : r.nextId + 1 < wordSize := by
        rw [hruns.nextId_eq]
        omega
      rw [hcalls, ok_bind]
      rcases run_cases hroom call with ⟨hcall, s, answer, hrun⟩ | ⟨hcall, hrun⟩
      · rw [hruns.stay_eq] at hcall
        rw [hrun]
        refine .inl ⟨fun c hc => ?_, _, _, rfl⟩
        rcases List.mem_append.1 hc with hc | hc
        · exact hinTime c hc
        · rwa [List.mem_singleton.1 hc]
      · rw [hruns.stay_eq] at hcall
        rw [hrun]
        exact .inr ⟨⟨call, List.mem_append_right _ (List.mem_singleton_self call), hcall⟩, rfl⟩
    · rw [hcalls]
      exact .inr ⟨⟨late, List.mem_append_left _ hmem, hlate⟩, rfl⟩

/-! ## The accounts -/

/-- The accounts of a new queue after some calls.

* `items`: it holds what has been pushed and not removed by a later call, in the order of the pushes.
* `increasing`: the numbers of what it holds increase.
* `leaves`: a notification takes the next number, and it leaves with a call exactly if that is the first
  one behind its push which removes it.
* `once`: each number that has been given has left once or is held, and not both.
* `never_again`: no number leaves twice.
* `inOrder`: numbers that expire with one call increase, as do those of the pushes. -/
structure Accounted (stay : Duration) (calls : List Call) (q : NotificationQueue)
    (answers : List Answer) : Prop where
  items : q.items = held stay 1 calls
  increasing : (q.items.map (·.id)).Pairwise (· < ·)
  answered : answers.length = calls.length
  leaves : ∀ front message kind moment createdAt middle call back,
    calls = front ++ .push message kind moment createdAt :: (middle ++ call :: back) →
    let n : Notification := ⟨1 + pushes front, message, kind, createdAt, moment + stay.nanos⟩
    answers[front.length]? = some (.pushed n.id) ∧
      ∃ answer, answers[front.length + 1 + middle.length]? = some answer ∧
        (n.id ∈ call.takesOut answer ↔
          call.removes n = true ∧ ∀ other ∈ middle, other.removes n = false)
  once : (departures calls answers ++ q.items.map (·.id)).Perm (List.range' 1 (pushes calls))
  never_again : (departures calls answers).Nodup
  inOrder : ∀ ids, .expired ids ∈ answers → ids.Pairwise (· < ·)

/-- A notification leaves with the first call behind its push that removes it. -/
theorem Runs.leaves (h : Runs stay calls q answers) {front middle back : List Call} {message : String}
    {kind : NotificationKind} {moment : Nat} {createdAt : Int} {call : Call}
    (split : calls = front ++ .push message kind moment createdAt :: (middle ++ call :: back)) :
    let n : Notification := ⟨1 + pushes front, message, kind, createdAt, moment + stay.nanos⟩
    ∃ answer, answers[front.length + 1 + middle.length]? = some answer ∧
      (n.id ∈ call.takesOut answer ↔
        call.removes n = true ∧ ∀ other ∈ middle, other.removes n = false) := by
  intro n
  have hsplit : calls = (front ++ .push message kind moment createdAt :: middle) ++ call :: back := by
    rw [split, List.append_assoc, List.cons_append]
  have hlength : (front ++ .push message kind moment createdAt :: middle).length =
      front.length + 1 + middle.length := by
    rw [List.length_append, List.length_cons]
    omega
  have hanswer := h.answered _ call back hsplit
  rw [hlength] at hanswer
  have houtlasts : outlasts middle n = true ↔ ∀ other ∈ middle, other.removes n = false := by
    simp [outlasts]
  refine ⟨_, hanswer, ?_⟩
  rw [mem_takesOut_answer, ← houtlasts]
  constructor
  · rintro ⟨m, hm, hid, hremoves⟩
    obtain ⟨rfl, hmiddle⟩ := (held_pushed stay front middle message kind moment createdAt m).1 ⟨hm, hid⟩
    exact ⟨hremoves, hmiddle⟩
  · rintro ⟨hremoves, hmiddle⟩
    obtain ⟨hm, hid⟩ := (held_pushed stay front middle message kind moment createdAt n).2 ⟨rfl, hmiddle⟩
    exact ⟨n, hm, hid, hremoves⟩

/-- The numbers that expire with a call increase. -/
theorem Runs.inOrder (h : Runs stay calls q answers) {ids : List Nat} (mem : .expired ids ∈ answers) :
    ids.Pairwise (· < ·) := by
  obtain ⟨i, hi⟩ := List.mem_iff_getElem?.1 mem
  obtain ⟨hlt, -⟩ := List.getElem?_eq_some_iff.1 hi
  rw [h.length_eq] at hlt
  have hsplit : calls = calls.take i ++ calls[i] :: calls.drop (i + 1) := by
    rw [List.getElem_cons_drop, List.take_append_drop]
  have hanswer := h.answered _ _ _ hsplit
  rw [List.length_take, Nat.min_eq_left (Nat.le_of_lt hlt), hi] at hanswer
  have hincreasing := (held_increasing stay 1 (calls.take i)).1
  revert hanswer
  cases calls[i] with
  | push | dismiss => intro hanswer; cases hanswer
  | expire moment =>
    intro hanswer
    cases hanswer
    exact List.pairwise_map.2 (hincreasing.filter _)

/-- The accounts of a new queue whose notifications all leave within the time that the clock counts: it
takes in any calls, and holds and answers what it should. -/
theorem notifications_accounted {stay : Duration} {calls : List Call}
    (few : calls.length + 1 < wordSize) (inTime : ∀ call ∈ calls, call.InTime stay) :
    ∃ q answers, (new stay).runCalls calls = .ok (q, answers) ∧ Accounted stay calls q answers := by
  rcases runCalls_cases few with ⟨-, q, answers, hrun⟩ | ⟨⟨call, hmem, hlate⟩, -⟩
  · have hruns := runs_of_ok hrun
    have hincreasing := (held_increasing stay 1 calls).1
    refine ⟨q, answers, hrun, ?_⟩
    refine ⟨hruns.items_eq, ?_, hruns.length_eq, ?_, hruns.once, ?_, fun ids => hruns.inOrder⟩
    · rw [hruns.items_eq]
      exact List.pairwise_map.2 hincreasing
    · intro front message kind moment createdAt middle call back hsplit
      exact ⟨hruns.answered _ _ _ hsplit, hruns.leaves hsplit⟩
    · have hnodup := hruns.once.nodup_iff.2 List.nodup_range'
      exact (List.nodup_append.1 hnodup).1
  · exact absurd (inTime call hmem) hlate

/-- Two notifications, of which the second one was made ten seconds before the first one: it expires
first, and the first one is dismissed before it would expire. -/
def outOfOrder : List Call :=
  [.push "saved" .success (10 * Duration.nanosPerSec) 0, .push "lost" .error 0 0,
    .expire (5 * Duration.nanosPerSec), .dismiss 1, .dismiss 1, .expire (20 * Duration.nanosPerSec)]

theorem accounted_out_of_order :
    (outOfOrder.length + 1 < wordSize ∧ ∀ call ∈ outOfOrder, call.InTime (.ofSecs 4)) ∧
      ∃ q answers, (new (.ofSecs 4)).runCalls outOfOrder = .ok (q, answers) ∧
        Accounted (.ofSecs 4) outOfOrder q answers ∧ answers =
          [.pushed 1, .pushed 2, .expired [2], .dismissed true, .dismissed false, .expired []] := by
  have few : outOfOrder.length + 1 < wordSize := by decide
  have inTime : ∀ call ∈ outOfOrder, call.InTime (.ofSecs 4) := by decide
  obtain ⟨q, answers, hrun, haccounted⟩ := notifications_accounted few inTime
  refine ⟨⟨few, inTime⟩, q, answers, hrun, haccounted, ?_⟩
  have hanswers : ((new (.ofSecs 4)).runCalls outOfOrder).map (·.2) =
      .ok [.pushed 1, .pushed 2, .expired [2], .dismissed true, .dismissed false, .expired []] := by
    rfl
  rw [hrun] at hanswers
  exact Except.ok.inj hanswers

/-- With the longest stay that a configuration can set, the first notification stops the program, in place
of being held. -/
theorem longest_stay_unheld :
    let stay : Duration := .ofSecs 0xffffffffffffffff
    let calls : List Call := [.push "Unknown command: zz" .warning 0 1700000000000]
    (new stay).runCalls calls = .error .clock ∧
      ¬ ∃ q answers, (new stay).runCalls calls = .ok (q, answers) ∧ Accounted stay calls q answers := by
  intro stay calls
  have hstops : (new stay).runCalls calls = .error .clock := by rfl
  refine ⟨hstops, ?_⟩
  rintro ⟨q, answers, hrun, -⟩
  rw [hstops] at hrun
  cases hrun

end NotificationQueue

end Lookout
