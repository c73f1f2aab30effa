import Lookout.Proofs.Cache.Stamps
import Lookout.Proofs.World.Histories
import Lookout.Proofs.World.Purposes
import Lookout.Proofs.World.Reads

/-!
# The stamps that a page shows

A page shows the entry that it was mounted with and then the entries of its fetches, one after the
other. On a storage that works and that nobody else writes to, their stamps are in order, whatever the
calendar does and however fetches overlap.

* **`notOlder_move`** — no move makes what the cache holds older.
* **`pairwise_shown`** — the stamps of the entries that a binding shows are in order.
* **`stamps_in_order`** — when the stamps of a key are in order and when not.
* **`stamp_goes_back`** — a read that fails, a write that fails, and an entry that nests too deep.
-/

namespace Lookout

open Cache (NotOlder)

/-- The entries that a binding has shown, one after the other. -/
def History.shown (h : History) : List Cache.Entry :=
  h.cached.toList ++ h.applied.filterMap (·.success?)

/-- What a binding shows is the last of them. -/
theorem History.snapshot_eq_shown (h : History) : h.snapshot = h.shown.getLast? := by
  rw [snapshot, shown, List.getLast?_append]
  cases h.cached <;> rfl

/-- The entry of a fetch that succeeded can be stored and read back. -/
def EndedFetch.Kept (x : EndedFetch) : Prop :=
  ∀ e, x.outcome.success? = some e →
    Json.Readable e.payload ∧ Json.depth e.payload ≤ Cache.payloadDepth ∧ Cache.IsStamp e.savedAt

namespace World

variable {w v : World}

/-! ## What the cache holds -/

/-- The entry of a success replaces what the cache holds for the key of the fetch and is no older. -/
theorem Ends.replaces {x : EndedFetch} {result : Except Fetch.Failure Json} (e : Ends w v x result)
    (space : v.space = w.space) (works : Works w) (kept : x.Kept) {entry : Cache.Entry}
    (success : x.outcome.success? = some entry) :
    v.read x.job.policy.key = some entry ∧ NotOlder (w.read x.job.policy.key) (some entry) := by
  obtain ⟨readable, shallow, stamp⟩ := kept entry success
  have houtcome := e.outcome
  cases result with
  | error failure =>
    rw [houtcome] at success
    cases success
  | ok payload =>
    obtain rfl : Cache.stamp w.space w.storage x.job.policy.key payload w.wall = entry := by
      rw [houtcome] at success
      exact Option.some.inj success
    have hread := e.read_ok space works readable (congrArg Fetch.Outcome.result houtcome) stamp
    refine ⟨hread.trans (if_pos shallow), ?_⟩
    intro p hp
    exact ⟨_, rfl, Cache.write_savedAt hp payload w.wall⟩

theorem Ends.notOlder {x : EndedFetch} {result : Except Fetch.Failure Json} (e : Ends w v x result)
    (space : v.space = w.space) (works : Works w) (kept : x.Kept) (key : String) :
    NotOlder (w.read key) (v.read key) := by
  by_cases hplace : Cache.slotName w.space key = Cache.slotName w.space x.job.policy.key
  · cases hsuccess : x.outcome.success? with
    | none =>
      have hfailed : x.succeeded = true → Cache.slotName w.space key ≠
          Cache.slotName w.space x.job.policy.key := by
        intro hsucceeded
        have hresult := hsuccess
        unfold EndedFetch.succeeded at hsucceeded
        unfold Fetch.Outcome.success? at hresult
        cases hx : x.outcome.result <;> simp_all [Except.isOk, Except.toBool, Except.toOption]
      rw [e.read_of_ne space hfailed]
      exact NotOlder.refl _
    | some entry =>
      obtain ⟨hread, holder⟩ := e.replaces space works kept hsuccess
      intro p hp
      -- The two keys find the same entry, each under its own name.
      have hbefore : w.read x.job.policy.key =
          some ⟨x.job.policy.key, p.payload, p.savedAt⟩ := by
        rw [World.read] at hp
        rw [World.read, Cache.read_of_same_place hplace.symm, hp]
        rfl
      obtain ⟨_, ⟨⟩, hle⟩ := holder _ hbefore
      rw [← space] at hplace
      rw [World.read] at hread
      rw [World.read, Cache.read_of_same_place hplace, hread]
      exact ⟨_, rfl, hle⟩
  · rw [e.read_of_ne space fun _ => hplace]
    exact NotOlder.refl _

/-- No move makes what the cache holds older, as long as the storage works and nobody disturbs it. -/
theorem notOlder_move (works : Works w) {m : Move} (calm : m.disturbs = false)
    (kept : ∀ x ∈ (w.move m).ended, x.Kept) (key : String) :
    NotOlder (w.read key) ((w.move m).read key) := by
  rcases move_ends_or w m with ⟨-, hstorage | ⟨slots, getFails, setFails, rfl⟩⟩ | ⟨x, result, hends⟩
  · have hread : (w.move m).read key = w.read key := by rw [World.read, move_space, hstorage, World.read]
    rw [hread]
    exact NotOlder.refl _
  · cases calm
  · have hx : x.Kept := kept x (hends.ended ▸ List.mem_cons_self)
    exact hends.notOlder (move_space w m) works hx key

/-! ## What a binding shows -/

/-- The entries of the fetches for a binding, in the order in which they ended. -/
def entriesOf (w : World) (n : Nat) : List Cache.Entry := (w.outcomesOf n).filterMap (·.success?)

/-- The entries that a binding was mounted with and has fetched are in order, and what the cache holds
for its key is no older than any of them. -/
structure InOrder (w : World) (n : Nat) (h : History) : Prop where
  there : ∃ p, w.purposes[n]? = some p ∧ p.key = h.key
  pairwise : (h.cached.toList ++ w.entriesOf n).Pairwise (·.savedAt ≤ ·.savedAt)
  held : ∀ e ∈ h.cached.toList ++ w.entriesOf n, NotOlder (some e) (w.read h.key)

theorem InOrder.congr {n : Nat} {h h' : History} (o : InOrder w n h)
    (purposes : ∃ more, v.purposes = w.purposes ++ more) (entries : v.entriesOf n = w.entriesOf n)
    (read : NotOlder (w.read h.key) (v.read h.key)) (key : h'.key = h.key)
    (cached : h'.cached = h.cached) : InOrder v n h' := by
  obtain ⟨p, hp, hkey⟩ := o.there
  obtain ⟨more, hmore⟩ := purposes
  refine ⟨⟨p, ?_, hkey.trans key.symm⟩, ?_, ?_⟩
  · rw [hmore, List.getElem?_append_left (List.getElem?_eq_some_iff.1 hp).1, hp]
  · rw [cached, entries]
    exact o.pairwise
  · rw [cached, entries, key]
    exact fun e he => (o.held e he).trans read

/-- The entry of a success takes its place after the others. -/
theorem InOrder.extend {n : Nat} {h : History} (o : InOrder w n h) {e : Cache.Entry}
    (purposes : v.purposes = w.purposes) (entries : v.entriesOf n = w.entriesOf n ++ [e])
    (read : v.read h.key = some e) (older : NotOlder (w.read h.key) (some e)) : InOrder v n h := by
  have hafter : ∀ d ∈ h.cached.toList ++ w.entriesOf n, d.savedAt ≤ e.savedAt := by
    intro d hd
    obtain ⟨_, hentry, hle⟩ := (o.held d hd).trans older d rfl
    cases hentry
    exact hle
  refine ⟨purposes ▸ o.there, ?_, ?_⟩
  · rw [entries, ← List.append_assoc, List.pairwise_append]
    refine ⟨o.pairwise, List.pairwise_singleton _ _, fun d hd d' hd' => ?_⟩
    rw [List.mem_singleton.1 hd']
    exact hafter d hd
  · rw [entries, ← List.append_assoc, read]
    rintro d hd _ ⟨⟩
    refine ⟨e, rfl, ?_⟩
    rcases List.mem_append.1 hd with hd | hd
    · exact hafter d hd
    · rw [List.mem_singleton.1 hd]

/-- What is recorded of a binding leaves its key and the entry that it was mounted with. -/
theorem record_some {n : Nat} {h h' : History} {m : Move} (there : n < w.mounted.length)
    (hrecord : record n w (some h) m = some h') : h'.key = h.key ∧ h'.cached = h.cached := by
  cases m with
  | mount policy sections =>
    rw [record, if_neg (Nat.ne_of_lt there)] at hrecord
    cases hrecord
    exact ⟨rfl, rfl⟩
  | refresh k =>
    simp only [record] at hrecord
    split at hrecord
    · obtain rfl := Option.some.inj hrecord
      cases hgone : h.gone <;> simp [hgone]
    · cases hrecord
      exact ⟨rfl, rfl⟩
  | poll k q | unmount k =>
    simp only [record] at hrecord
    split at hrecord <;> cases hrecord <;> exact ⟨rfl, rfl⟩
  | goOn | clock | calendar | line | serve | disturb =>
    cases hrecord
    exact ⟨rfl, rfl⟩

theorem entriesOf_congr (h : v.ended = w.ended) (n : Nat) : v.entriesOf n = w.entriesOf n := by
  rw [entriesOf, outcomesOf_congr h, entriesOf]

/-- A binding that has just been mounted shows what the cache holds, and none of its fetches has
ended. -/
theorem inOrder_mount (a : Accounts w) (policy : Fetch.Policy) (sections : List Section) :
    InOrder (w.mount policy sections) w.mounted.length
      ⟨policy.key, w.read policy.key, 0, [], false, []⟩ := by
  have hread : (w.mount policy sections).read policy.key = w.read policy.key := by
    obtain ⟨mounted, nextJob, ready, heq⟩ := mount_eq w policy sections
    rw [heq]
    rfl
  have hnone : (w.mount policy sections).entriesOf w.mounted.length = [] := by
    have harrived := (follows_mount a policy sections).arrived rfl
    rw [entriesOf, ← harrived]
    rfl
  refine ⟨⟨⟨policy.key, policy, sections⟩, ?_, rfl⟩, ?_, ?_⟩
  · rw [purposes_mount, ← length_purposes, List.getElem?_concat_length]
  · rw [hnone, List.append_nil]
    cases w.read policy.key with
    | none => exact List.Pairwise.nil
    | some e => exact List.pairwise_singleton _ _
  · rw [hnone, List.append_nil, hread]
    intro e he
    have hheld : w.read policy.key = some e := Option.mem_toList.1 he
    rw [hheld]
    exact NotOlder.refl _

/-- A fetch that ends adds its entry, if it has one, to those of its own binding. -/
theorem InOrder.ends {n : Nat} {h : History} (o : InOrder w n h) (owned : Owned w)
    {x : EndedFetch} {result : Except Fetch.Failure Json} (e : Ends w v x result)
    (purposes : v.purposes = w.purposes) (space : v.space = w.space) (works : Works w)
    (kept : x.Kept) : InOrder v n h := by
  have hgrown : ∃ more, v.purposes = w.purposes ++ more := ⟨[], purposes.trans (List.append_nil _).symm⟩
  have houtcomes := e.outcomesOf n
  by_cases hown : x.job.binding = n
  · rw [if_pos hown] at houtcomes
    cases hsuccess : x.outcome.success? with
    | none =>
      have hentries : v.entriesOf n = w.entriesOf n := by
        rw [entriesOf, houtcomes, List.filterMap_append, List.filterMap_cons_none hsuccess]
        exact List.append_nil _
      exact o.congr hgrown hentries (e.notOlder space works kept h.key) rfl rfl
    | some entry =>
      have hentries : v.entriesOf n = w.entriesOf n ++ [entry] := by
        rw [entriesOf, houtcomes, List.filterMap_append, List.filterMap_cons_some hsuccess]
        rfl
      obtain ⟨p, hp, hkey⟩ := o.there
      have hpurpose := owned.jobs x.job e.waits
      rw [hown, hp] at hpurpose
      obtain rfl := Option.some.inj hpurpose
      have hjob : x.job.policy.key = h.key := hkey
      obtain ⟨hread, holder⟩ := e.replaces space works kept hsuccess
      rw [hjob] at hread holder
      exact o.extend purposes hentries hread holder
  · rw [if_neg hown, List.append_nil] at houtcomes
    have hentries : v.entriesOf n = w.entriesOf n := by rw [entriesOf, houtcomes, entriesOf]
    exact o.congr hgrown hentries (e.notOlder space works kept h.key) rfl rfl

theorem inOrder_move (a : Accounts w) (owned : Owned w) (works : Works w) {n : Nat}
    {h : Option History} (o : ∀ h' ∈ h, InOrder w n h') {m : Move} (calm : m.disturbs = false)
    (kept : ∀ x ∈ (w.move m).ended, x.Kept) : ∀ h' ∈ record n w h m, InOrder (w.move m) n h' := by
  intro h' hrecord
  cases h with
  | none =>
    cases m with
    | mount policy sections =>
      simp only [record] at hrecord
      split at hrecord
      · next hn =>
        obtain rfl := Option.some.inj hrecord
        subst hn
        exact inOrder_mount a policy sections
      · cases hrecord
    | refresh k | poll k q | unmount k =>
      simp only [record, Option.map_none, ite_self] at hrecord
      cases hrecord
    | goOn | clock | calendar | line | serve | disturb => cases hrecord
  | some h =>
    have hh := o h rfl
    obtain ⟨p, hp, -⟩ := hh.there
    have hlength : n < w.mounted.length := by
      have hlt := (List.getElem?_eq_some_iff.1 hp).1
      rwa [length_purposes] at hlt
    obtain ⟨hkey, hcached⟩ := record_some hlength hrecord
    have hpurposes := purposes_move w m
    have hsame : InOrder (w.move m) n h := by
      rcases move_ends_or w m with ⟨hended, -⟩ | ⟨x, result, hends⟩
      · exact hh.congr ⟨_, hpurposes⟩ (entriesOf_congr hended n)
          (notOlder_move works calm kept h.key) rfl rfl
      · have hx : x.Kept := kept x (hends.ended ▸ List.mem_cons_self)
        have hlengths := congrArg List.length hends.bindings
        have hunchanged : (w.move m).purposes = w.purposes := by
          rw [length_bindings, List.length_modify, length_bindings, ← length_purposes,
            ← length_purposes, hpurposes, List.length_append] at hlengths
          have hnil : m.purpose?.toList = [] := List.length_eq_zero_iff.1 (by omega)
          rw [hpurposes, hnil, List.append_nil]
        exact hh.ends owned hends hunchanged (move_space w m) works hx
    exact hsame.congr ⟨[], (List.append_nil _).symm⟩ rfl (NotOlder.refl _) hkey hcached

theorem inOrder_run (a : Accounts w) (owned : Owned w) (works : Works w) {n : Nat}
    {h : Option History} (o : ∀ h' ∈ h, InOrder w n h') {moves : List Move}
    (calm : ∀ m ∈ moves, m.disturbs = false) (kept : ∀ x ∈ (w.run moves).ended, x.Kept) :
    ∀ h' ∈ history n w moves h, InOrder (w.run moves) n h' := by
  induction moves generalizing w h with
  | nil => exact o
  | cons m moves ih =>
    obtain ⟨hcalm, hcalms⟩ := List.forall_mem_cons.1 calm
    have hworks : Works (w.move m) := works_run works (List.forall_mem_singleton.2 hcalm)
    obtain ⟨fresh, hfresh⟩ := ended_run (w.move m) moves
    have hkept : ∀ x ∈ (w.move m).ended, x.Kept := by
      intro x hx
      refine kept x ?_
      show x ∈ ((w.move m).run moves).ended
      rw [hfresh]
      exact List.mem_append_right _ hx
    exact ih (a.move m) (owned.move m) hworks (inOrder_move a owned works o hcalm hkept) hcalms kept

/-- The stamps of the entries that a binding shows are in order on a storage that works and that nobody
else writes to, as long as every entry can be stored and read back. -/
theorem pairwise_shown (calendar : Int) (space : String) {storage : Cache.Storage} (servers : Servers)
    (working : storage.getFails = false ∧ storage.setFails = false) {moves : List Move}
    (undisturbed : ∀ m ∈ moves, m.disturbs = false)
    (kept : ∀ x ∈ ((start calendar space storage servers).run moves).ended, x.Kept) {n : Nat}
    {b : Binding} (hb : ((start calendar space storage servers).run moves).binding? n = some b) :
    ∃ h, history n (start calendar space storage servers) moves none = some h ∧
      b.snapshot = h.shown.getLast? ∧ h.shown.Pairwise (·.savedAt ≤ ·.savedAt) := by
  obtain ⟨h, hhistory, f⟩ := history_of_run calendar space storage servers moves hb
  refine ⟨h, hhistory, f.shows.snapshot.trans h.snapshot_eq_shown, ?_⟩
  have hordered := inOrder_run (accounts_start calendar space storage servers)
    (owned_start calendar space storage servers) ⟨working.1, working.2⟩ (h := none) (n := n)
    (fun _ hnone => by cases hnone) undisturbed kept h hhistory
  refine hordered.pairwise.sublist ?_
  exact (List.Sublist.refl _).append (f.applied.sublist.filterMap _)

/-! ## When stamps are in order -/

/-- When the stamps of a key are in order, for writes one after the other, whatever the calendar shows
and whichever operations fail. The stamp that is filed goes back with a write exactly if what is filed
cannot be got, the write works and its data can be read back, and the calendar has stepped back. The
stamp that a write returns is earlier than that of the write before exactly if the calendar has stepped
back and the entry before is not found: it cannot be got, its write failed and nothing as late is filed,
or it nests too deep to be read back. So the stamps that are filed never go back as long as each write
finds what is filed, and those that are returned are in order if also no write fails; and then those that
a page shows are in order too, however its fetches overlap.

Filed is what can be read back from the storage. The stamp of the text that is stored can go back without
that, as a write behind data that nests too deep finds no entry there whose stamp it could keep. -/
theorem stamps_in_order (space key : String) (s : Cache.Storage) (as : List Cache.Attempt)
    (sound : ∀ a ∈ as, a.Sound) :
    (∀ before a after p, as = before ++ a :: after →
        Cache.filed space (Cache.attempts space key s before) key = some p →
        ((∃ e, Cache.filed space (Cache.attempts space key s (before ++ [a])) key = some e ∧
            e.savedAt < p.savedAt) ↔
          a.getFails = true ∧ a.setFails = false ∧ a.Shallow ∧ a.time < p.savedAt)) ∧
      (∀ before a b after, as = before ++ a :: b :: after →
        let t := Cache.attempts space key s before
        let first := (Cache.attempt space key t a).2
        let second := (Cache.attempt space key (Cache.attempts space key s (before ++ [a])) b).2
        (second.savedAt < first.savedAt ↔ b.time < first.savedAt ∧ (b.getFails = true ∨
          (a.setFails = true ∧
            ∀ p, Cache.filed space t key = some p → p.savedAt < first.savedAt) ∨
          a.setFails = false ∧ ¬ a.Shallow))) ∧
      ((∀ a ∈ as, a.getFails = false ∧ a.Shallow) →
        NotOlder (Cache.filed space s key) (Cache.filed space (Cache.attempts space key s as) key)) ∧
      ((∀ a ∈ as, (a.getFails = false ∧ a.Shallow) ∧ a.setFails = false) →
        (Cache.returned space key s as).Pairwise (·.savedAt ≤ ·.savedAt)) ∧
      ∀ calendar servers moves, s.getFails = false ∧ s.setFails = false →
        (∀ m ∈ moves, m.disturbs = false) →
        (∀ x ∈ ((start calendar space s servers).run moves).ended, x.Kept) →
        ∀ n b, ((start calendar space s servers).run moves).binding? n = some b →
          ∃ h, history n (start calendar space s servers) moves none = some h ∧
            b.snapshot = h.shown.getLast? ∧ h.shown.Pairwise (·.savedAt ≤ ·.savedAt) := by
  refine ⟨?_, ?_, Cache.notOlder_attempts s sound, Cache.pairwise_returned s sound, ?_⟩
  · intro before a after p has hp
    have ha : a.Sound := sound a (by simp [has])
    rw [Cache.attempts_concat]
    exact Cache.filed_lt_iff ha hp
  · intro before a b after has t first second
    have ha : a.Sound := sound a (by simp [has])
    have hsecond : second = (Cache.attempt space key (Cache.attempt space key t a).1 b).2 := by
      simp only [second, Cache.attempts_concat, t]
    rw [hsecond]
    exact Cache.returned_lt_iff t ha
  · intro calendar servers moves working undisturbed kept n b hb
    exact pairwise_shown calendar space servers working undisturbed kept hb

/-- A calendar that steps back does not show as long as the storage works. -/
theorem stamp_stays :
    (Cache.returned "" "res" .empty [⟨.null, 100, false, false⟩, ⟨.null, 50, false, false⟩]).Pairwise
      (·.savedAt ≤ ·.savedAt) := by
  have hnull : Json.Readable .null := ⟨trivial, List.forall_mem_nil _⟩
  have sound : ∀ a ∈ ([⟨.null, 100, false, false⟩, ⟨.null, 50, false, false⟩] : List Cache.Attempt),
      a.Sound := by
    simp only [List.mem_cons, List.not_mem_nil, or_false, forall_eq_or_imp, forall_eq]
    exact ⟨⟨hnull, by decide⟩, ⟨hnull, by decide⟩⟩
  exact (stamps_in_order "" "res" .empty _ sound).2.2.2.1 (by decide)

/-- Lists within lists around nothing are read as they are printed. -/
theorem readable_repeat (n : Nat) : Json.Readable (Nat.repeat (fun v => .arr [v]) n .null) := by
  induction n with
  | zero => exact ⟨trivial, List.forall_mem_nil _⟩
  | succ n ih =>
    refine ⟨⟨ih.ordered, trivial⟩, ?_⟩
    show ∀ x ∈ Json.reals _ ++ [], Json.ReadsBack x
    rw [List.append_nil]
    exact ih.reals

/-- Three ways in which a stamp goes back when the calendar does: the entry before cannot be got, it could
not be stored, or its lists nest too deep to be read back. In the first, the stamp that is filed goes back
as well. -/
theorem stamp_goes_back :
    let deep : Json := Nat.repeat (fun v => .arr [v]) 127 .null
    let unread : List Cache.Attempt := [⟨.null, 100, false, false⟩, ⟨.null, 50, true, false⟩]
    let unstored : List Cache.Attempt := [⟨.null, 100, false, true⟩, ⟨.null, 50, false, false⟩]
    let unreadable : List Cache.Attempt := [⟨deep, 100, false, false⟩, ⟨.null, 50, false, false⟩]
    (Cache.returned "" "res" .empty unread).map (·.savedAt) = [100, 50] ∧
      (Cache.filed "" (Cache.attempts "" "res" .empty (unread.take 1)) "res").map (·.savedAt) =
        some 100 ∧
      (Cache.filed "" (Cache.attempts "" "res" .empty unread) "res").map (·.savedAt) = some 50 ∧
      (Cache.returned "" "res" .empty unstored).map (·.savedAt) = [100, 50] ∧
      (Cache.returned "" "res" .empty unreadable).map (·.savedAt) = [100, 50] := by
  intro deep unread unstored unreadable
  have hempty : Cache.filed "" .empty "res" = none := rfl
  have hnull : Json.Readable .null := ⟨trivial, List.forall_mem_nil _⟩
  have hdeep : Json.Readable deep := readable_repeat 127
  have hstamps (a b : Cache.Attempt) :
      (Cache.returned "" "res" .empty [a, b]).map (·.savedAt) =
        [(Cache.attempt "" "res" .empty a).2.savedAt,
          (Cache.attempt "" "res" (Cache.attempt "" "res" .empty a).1 b).2.savedAt] := rfl
  have hfirst (payload : Json) (setFails : Bool) :
      (Cache.attempt "" "res" .empty ⟨payload, 100, false, setFails⟩).2.savedAt = 100 :=
    Cache.savedAt_attempt_of_none _ hempty
  -- Nothing is found there, so the second write takes the time that the calendar shows.
  have hsecond {s : Cache.Storage} (hs : Cache.filed "" s "res" = none) :
      (Cache.attempt "" "res" s ⟨.null, 50, false, false⟩).2.savedAt = 50 :=
    Cache.savedAt_attempt_of_none _ hs
  have hfails (s : Cache.Storage) :
      (Cache.attempt "" "res" s ⟨.null, 50, true, false⟩).2.savedAt = 50 :=
    Cache.savedAt_attempt_of_fails s rfl
  refine ⟨?_, ?_, ?_, ?_, ?_⟩
  · refine (hstamps _ _).trans ?_
    rw [hfirst, hfails]
  · show (Cache.filed "" (Cache.attempt "" "res" .empty _).1 "res").map _ = _
    rw [Cache.filed_attempt_of_works .empty ⟨hnull, by decide⟩ rfl (by decide), Option.map_some, hfirst]
  · show (Cache.filed "" (Cache.attempt "" "res" _ _).1 "res").map _ = _
    rw [Cache.filed_attempt_of_works _ ⟨hnull, by decide⟩ rfl (by decide), Option.map_some, hfails]
  · refine (hstamps _ _).trans ?_
    rw [hfirst, hsecond]
    rw [Cache.filed_attempt_of_fails .empty ⟨hnull, by decide⟩ rfl, hempty]
  · refine (hstamps _ _).trans ?_
    rw [hfirst, hsecond]
    exact Cache.filed_attempt_of_deep .empty ⟨hdeep, by decide⟩ rfl (by decide +kernel)

end World

end Lookout
