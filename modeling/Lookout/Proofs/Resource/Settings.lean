import Lookout.Proofs.Config.Pages
import Lookout.Proofs.Fetch.Backoff
import Lookout.Proofs.Resource.Names
import Lookout.Proofs.World.Schedule

/-!
# Pages and their settings

What a configuration makes of the pages. The built-in ones come first; behind them stand, by name, the pages
that settings define, which are those with sections of their own. Each page is its built-in definition, or
one that shows nothing, with what is set in place of what it had. Fetches never follow each other in less
than a second, whatever is set.

* **`addSettings_map_pageIn`** — settings for one name change the page of that name only, or define it.
* **`resolve_eq`** — every page is made from its name and the settings for it alone.
* **`follows_change`** — a page has what is set, and else what it had.
* **`Unhurried`** — a policy under which no two background fetches follow each other in less than a second.
* **`pages_of_settings`** — the pages of an accepted configuration.
-/

namespace Lookout

/-- The settings for a page; none if there are none for its name. -/
def Config.settings (c : Config) (name : String) : PageSettings := (c.page? name).getD .none

/-- The configuration without the settings for a page. -/
def Config.without (c : Config) (name : String) : Config :=
  { c with pages := c.pages.filter (·.1 ≠ name) }

/-- The settings without an interval for threads. -/
def PageSettings.untimed (s : PageSettings) : PageSettings := { s with threadIntervalSecs := .none }

/-- The configuration that sets no interval for the threads of a page. -/
def Config.untimed (c : Config) (name : String) : Config :=
  { c with pages := c.pages.map fun entry => (entry.1, if entry.1 = name then entry.2.untimed else entry.2) }

/-- The settings for other pages are still there. -/
theorem Config.settings_without (c : Config) {name m : String} (h : m ≠ name) :
    (c.without name).settings m = c.settings m := by
  have htest : (fun entry : String × PageSettings =>
      decide (decide (entry.1 ≠ name) = true ∧ decide (entry.1 = m) = true)) =
      fun entry => decide (entry.1 = m) := by
    funext entry
    by_cases heq : entry.1 = m
    · simp [heq, h]
    · simp [heq]
  rw [settings, page?, without, List.find?_filter, htest]
  rfl

/-- The settings for other pages are as they were. -/
theorem Config.settings_untimed (c : Config) (name m : String) :
    (c.untimed name).settings m = if m = name then (c.settings m).untimed else c.settings m := by
  have htest : ((fun entry : String × PageSettings => decide (entry.1 = m)) ∘
      fun entry : String × PageSettings =>
        (entry.1, if entry.1 = name then entry.2.untimed else entry.2)) =
      fun entry => decide (entry.1 = m) := rfl
  rw [settings, page?, untimed, List.find?_map, htest, settings, page?]
  cases hfind : c.pages.find? (·.1 = m) with
  | none =>
    simp only [Option.map_none, Option.getD_none]
    split <;> rfl
  | some entry =>
    have hname : entry.1 = m := by simpa using List.find?_some hfind
    simp only [Option.map_some, Option.getD_some, hname]

namespace Resource

/-- What a page is without settings: the built-in page of the name, or one that shows nothing. -/
def base (name : String) : Resource :=
  (builtin.find? (·.name = name)).getD (new name name .generic name 60 [] none)

/-- The settings define a page. -/
def isDefining (entry : String × PageSettings) : Bool :=
  entry.1 ∉ names builtin && entry.2.sections.isSome

/-- The names of the pages that settings define. -/
def definedNames (entries : List (String × PageSettings)) : List String :=
  (entries.filter isDefining).map (·.1)

/-- The settings for a name among several. -/
def settingsIn (entries : List (String × PageSettings)) (name : String) : PageSettings :=
  ((entries.find? (·.1 = name)).map (·.2)).getD .none

/-- A page is what another one becomes by settings: it has what is set, and else what the other one has. Of
the settings for threads, the interval counts only if there is a path. -/
structure Follows (s : PageSettings) (d r : Resource) : Prop where
  name : r.name = d.name
  kind : r.kind = d.kind
  title : r.title = s.title.getD d.title
  key : r.policy.key = s.key.getD d.policy.key
  interval : r.policy.interval =
    s.intervalSecs.elim d.policy.interval fun n => .ofSecs (max n.toNat 1)
  revalidateDelay : r.policy.revalidateDelay =
    s.revalidateDelayMs.elim d.policy.revalidateDelay fun n => .ofMillis n.toNat
  maxBackoff : r.policy.maxBackoff =
    s.maxBackoffSecs.elim d.policy.maxBackoff fun n => some (.ofSecs n.toNat)
  sections : r.sections = s.sections.getD d.sections
  threadPath : r.thread.map (·.path) = s.threadPath.or (d.thread.map (·.path))
  threadInterval : ∀ t ∈ r.thread, t.interval =
    s.threadIntervalSecs.elim ((d.thread.map (·.interval)).getD (.ofSecs 5)) fun n => .ofSecs (max n.toNat 1)

/-! ## One page -/

theorem name_base (name : String) : (base name).name = name := by
  unfold base
  cases hfind : builtin.find? (·.name = name) with
  | none => rfl
  | some r => simpa using List.find?_some hfind

theorem base_of_not_builtin {name : String} (h : name ∉ names builtin) :
    base name = new name name .generic name 60 [] none := by
  have hnone : builtin.find? (·.name = name) = none := by
    rw [List.find?_eq_none]
    intro r hr heq
    obtain rfl : r.name = name := by simpa using heq
    exact h (List.mem_map_of_mem hr)
  rw [base, hnone]
  rfl

theorem map_base_builtin : (names builtin).map base = builtin := by
  rfl

theorem change_none (r : Resource) : r.change .none = r := by
  obtain ⟨name, title, kind, policy, sections, thread⟩ := r
  rfl

theorem name_change (s : PageSettings) (r : Resource) : (r.change s).name = r.name := rfl

/-- Without a path, an interval for threads changes nothing. -/
theorem change_untimed {s : PageSettings} {r : Resource} (pathless : s.threadPath = none)
    (threadless : r.thread = none) : r.change s.untimed = r.change s := by
  have hthread : changeThread s.untimed r.thread = changeThread s r.thread := by
    simp only [changeThread, PageSettings.untimed, pathless, threadless]
    cases s.threadIntervalSecs <;> rfl
  simp only [change, hthread]
  rfl

/-- A page has what is set, and else what it had. -/
theorem follows_change (s : PageSettings) (d : Resource) : Follows s d (d.change s) where
  name := rfl
  kind := rfl
  title := rfl
  key := rfl
  interval := by
    show (s.intervalSecs.map atLeastOneSecond).getD d.policy.interval = _
    cases s.intervalSecs <;> rfl
  revalidateDelay := by
    show (s.revalidateDelayMs.map fun n => Duration.ofMillis n.toNat).getD d.policy.revalidateDelay = _
    cases s.revalidateDelayMs <;> rfl
  maxBackoff := by
    show (s.maxBackoffSecs.map fun n => Duration.ofSecs n.toNat).or d.policy.maxBackoff = _
    cases s.maxBackoffSecs <;> rfl
  sections := rfl
  threadPath := by
    show (changeThread s d.thread).map (·.path) = _
    unfold changeThread
    cases s.threadPath <;> cases s.threadIntervalSecs <;> cases d.thread <;> rfl
  threadInterval := by
    show ∀ t ∈ changeThread s d.thread, _
    intro t ht
    unfold changeThread at ht
    revert ht
    cases s.threadPath <;> cases s.threadIntervalSecs <;> cases d.thread <;> rintro ⟨⟩ <;> rfl

/-! ## All pages -/

theorem settingsIn_of_not_mem {entries : List (String × PageSettings)} {name : String}
    (h : name ∉ entries.map (·.1)) : settingsIn entries name = .none := by
  have hnone : entries.find? (·.1 = name) = none := by
    rw [List.find?_eq_none]
    intro e he heq
    exact h (List.mem_map.2 ⟨e, he, by simpa using heq⟩)
  rw [settingsIn, hnone]
  rfl

theorem settingsIn_concat_self {entries : List (String × PageSettings)} {entry : String × PageSettings}
    (new : entry.1 ∉ entries.map (·.1)) : settingsIn (entries ++ [entry]) entry.1 = entry.2 := by
  have hnone : entries.find? (·.1 = entry.1) = none := by
    rw [List.find?_eq_none]
    intro e he heq
    exact new (List.mem_map.2 ⟨e, he, by simpa using heq⟩)
  simp [settingsIn, List.find?_append, hnone]

theorem settingsIn_concat_of_ne {entries : List (String × PageSettings)} {entry : String × PageSettings}
    {name : String} (h : name ≠ entry.1) :
    settingsIn (entries ++ [entry]) name = settingsIn entries name := by
  have hne : (entry.1 = name) = False := eq_false (Ne.symm h)
  simp [settingsIn, List.find?_append, hne]

theorem definedNames_concat (entries : List (String × PageSettings)) (entry : String × PageSettings) :
    definedNames (entries ++ [entry]) =
      definedNames entries ++ if isDefining entry then [entry.1] else [] := by
  unfold definedNames
  rw [List.filter_append, List.map_append]
  cases h : isDefining entry <;> simp [h]

theorem definedNames_subset (entries : List (String × PageSettings)) :
    definedNames entries ⊆ entries.map (·.1) :=
  List.map_subset _ (List.filter_subset_self _)

/-- The page of a name, with the settings for it among several. -/
def pageIn (entries : List (String × PageSettings)) (name : String) : Resource :=
  (base name).change (settingsIn entries name)

theorem names_map_pageIn (entries : List (String × PageSettings)) (l : List String) :
    names (l.map (pageIn entries)) = l := by
  rw [names, List.map_map]
  exact (List.map_congr_left fun name _ => name_base name).trans (List.map_id l)

/-- Settings for another name change no page. -/
theorem map_pageIn_concat {entry : String × PageSettings} {l : List String} (h : entry.1 ∉ l)
    (entries : List (String × PageSettings)) :
    l.map (pageIn (entries ++ [entry])) = l.map (pageIn entries) := by
  refine List.map_congr_left fun name hname => ?_
  have hne : name ≠ entry.1 := fun heq => h (heq ▸ hname)
  rw [pageIn, settingsIn_concat_of_ne hne, pageIn]

/-- The page that a new name has settings for, with these settings. -/
theorem pageIn_concat_self {entries : List (String × PageSettings)} {entry : String × PageSettings}
    (new : entry.1 ∉ entries.map (·.1)) :
    pageIn (entries ++ [entry]) entry.1 = (pageIn entries entry.1).change entry.2 := by
  rw [pageIn, settingsIn_concat_self new, pageIn, settingsIn_of_not_mem new, change_none]

/-- Settings for a new name after those for others: each page is made from the settings for its name. -/
theorem addSettings_map_pageIn {entries : List (String × PageSettings)} {entry : String × PageSettings}
    (new : entry.1 ∉ entries.map (·.1)) :
    addSettings ((names builtin ++ definedNames entries).map (pageIn entries)) entry =
      (names builtin ++ definedNames (entries ++ [entry])).map (pageIn (entries ++ [entry])) := by
  have hdefined : entry.1 ∉ definedNames entries := fun h => new (definedNames_subset entries h)
  rw [definedNames_concat, ← List.append_assoc]
  by_cases hbuiltin : entry.1 ∈ names builtin
  · have hplain : isDefining entry = false := by simp [isDefining, hbuiltin]
    have hmem : entry.1 ∈ names builtin ++ definedNames entries := List.mem_append_left _ hbuiltin
    rw [addSettings, if_pos (any_name_iff.2 (by rwa [names_map_pageIn])), List.map_map, hplain]
    simp only [Bool.false_eq_true, if_false, List.append_nil]
    refine List.map_congr_left fun name _ => ?_
    have hname : (pageIn entries name).name = name := name_base name
    rw [Function.comp_apply, hname]
    split
    · next heq => rw [heq, pageIn_concat_self new]
    · next hne => rw [pageIn, pageIn, settingsIn_concat_of_ne hne]
  · have hmem : entry.1 ∉ names builtin ++ definedNames entries :=
      fun h => (List.mem_append.1 h).elim hbuiltin hdefined
    rw [addSettings, if_neg (mt any_name_iff.1 (by rwa [names_map_pageIn])),
      List.map_append (f := pageIn (entries ++ [entry])), map_pageIn_concat hmem]
    by_cases hsections : entry.2.sections.isSome = true
    · have hdefines : isDefining entry = true := by simp [isDefining, hbuiltin, hsections]
      rw [if_pos hsections, if_pos hdefines, List.map_singleton, pageIn_concat_self new, pageIn,
        settingsIn_of_not_mem new, change_none, base_of_not_builtin hbuiltin]
    · have hplain : ¬ isDefining entry = true := by simp [isDefining, hsections]
      rw [if_neg hsections, if_neg hplain, List.map_nil, List.append_nil]

/-- Settings for names of their own make every page from what it is without settings and those for its
name. -/
theorem foldl_addSettings {entries : List (String × PageSettings)} (apart : (entries.map (·.1)).Nodup) :
    entries.foldl addSettings builtin = (names builtin ++ definedNames entries).map (pageIn entries) := by
  induction entries using List.reverseRecOn with
  | nil =>
    have hbase : (names builtin).map (pageIn []) = builtin :=
      (List.map_congr_left fun name _ => change_none (base name)).trans map_base_builtin
    rw [List.foldl_nil, definedNames, List.filter_nil, List.map_nil, List.append_nil, hbase]
  | append_singleton entries entry ih =>
    rw [List.map_append, List.map_singleton] at apart
    obtain ⟨hapart, -, hdisjoint⟩ := List.nodup_append'.1 apart
    have hnew : entry.1 ∉ entries.map (·.1) := fun h => hdisjoint h (List.mem_singleton_self entry.1)
    rw [List.foldl_append, List.foldl_cons, List.foldl_nil, ih hapart, addSettings_map_pageIn hnew]

/-- The names of the pages of a configuration. -/
def pageNames (c : Config) : List String := names builtin ++ definedNames c.pages

/-- The page of a name. -/
def settled (c : Config) (name : String) : Resource :=
  ((base name).change (c.settings name)).withTimeout c.timeout

/-- Every page is made from its name and the settings for it alone. -/
theorem resolve_eq {c : Config} (apart : (c.pages.map (·.1)).Nodup) :
    resolve c = (pageNames c).map (settled c) := by
  rw [resolve, foldl_addSettings apart, List.map_map]
  rfl

theorem names_eq {c : Config} (apart : (c.pages.map (·.1)).Nodup) : names (resolve c) = pageNames c := by
  rw [resolve_eq apart, names, List.map_map]
  exact (List.map_congr_left fun m _ => name_base m).trans (List.map_id _)

theorem settled_of_mem {c : Config} (apart : (c.pages.map (·.1)).Nodup) {r : Resource} (h : r ∈ resolve c) :
    r = settled c r.name := by
  rw [resolve_eq apart] at h
  obtain ⟨name, -, rfl⟩ := List.mem_map.1 h
  exact congrArg (settled c) (name_base name).symm

theorem follows_settled (c : Config) (name : String) :
    Follows (c.settings name) (base name) (settled c name) := by
  obtain ⟨name, kind, title, key, interval, delay, backoff, sections, path, threadInterval⟩ :=
    follows_change (c.settings name) (base name)
  exact ⟨name, kind, title, key, interval, delay, backoff, sections, path, threadInterval⟩

theorem settings_of_mem {c : Config} (apart : (c.pages.map (·.1)).Nodup) {entry : String × PageSettings}
    (h : entry ∈ c.pages) : c.settings entry.1 = entry.2 := by
  obtain ⟨e, he⟩ : ∃ e, c.pages.find? (·.1 = entry.1) = some e := by
    rw [← Option.isSome_iff_exists, List.find?_isSome]
    exact ⟨entry, h, by simp⟩
  have hname : e.1 = entry.1 := by simpa using List.find?_some he
  have hentry : e = entry := List.inj_on_of_nodup_map apart (List.mem_of_find?_eq_some he) h hname
  rw [Config.settings, Config.page?, he, hentry]
  rfl

theorem mem_definedNames {c : Config} {name : String} : name ∈ definedNames c.pages ↔
    name ∉ names builtin ∧ ∃ s, (name, s) ∈ c.pages ∧ s.sections.isSome := by
  simp only [definedNames, List.mem_map, List.mem_filter, isDefining, Bool.and_eq_true, decide_eq_true_eq]
  constructor
  · rintro ⟨⟨_, s⟩, ⟨hmem, hnew, hsections⟩, rfl⟩
    exact ⟨hnew, s, hmem, hsections⟩
  · rintro ⟨hnew, s, hmem, hsections⟩
    exact ⟨(name, s), ⟨hmem, hnew, hsections⟩, rfl⟩

/-! ## Settings that change nothing -/

/-- Settings for an unknown page that list no sections change nothing. -/
theorem resolve_without {c : Config} (apart : (c.pages.map (·.1)).Nodup) {name : String}
    (unknown : name ∉ names builtin) (sectionless : (c.settings name).sections = none) :
    resolve (c.without name) = resolve c := by
  have hdefining {entry : String × PageSettings} (h : entry ∈ c.pages) (defines : isDefining entry) :
      entry.1 ≠ name := by
    rintro rfl
    rw [settings_of_mem apart h] at sectionless
    simp [isDefining, sectionless] at defines
  have hnames : pageNames (c.without name) = pageNames c := by
    have hfilter : (c.pages.filter (·.1 ≠ name)).filter isDefining = c.pages.filter isDefining := by
      rw [List.filter_filter]
      refine List.filter_congr fun entry h => ?_
      cases defines : isDefining entry with
      | false => rfl
      | true => simp [hdefining h defines]
    exact congrArg (fun entries => names builtin ++ entries.map (·.1)) hfilter
  have hsettled {m : String} (h : m ≠ name) : settled (c.without name) m = settled c m := by
    rw [settled, Config.settings_without c h]
    rfl
  have hapart : ((c.without name).pages.map (·.1)).Nodup :=
    apart.sublist (List.filter_sublist.map _)
  rw [resolve_eq hapart, resolve_eq apart, hnames]
  refine List.map_congr_left fun m hm => hsettled ?_
  rintro rfl
  rcases List.mem_append.1 hm with h | h
  · exact unknown h
  · obtain ⟨-, s, hmem, hsections⟩ := mem_definedNames.1 h
    have hlisted : (c.settings m).sections.isSome := (settings_of_mem apart hmem).symm ▸ hsections
    rw [sectionless] at hlisted
    cases hlisted

/-- Without threads, the interval that is set for them changes nothing. -/
theorem resolve_untimed {c : Config} (apart : (c.pages.map (·.1)).Nodup) {name : String}
    (pathless : (c.settings name).threadPath = none) (threadless : (base name).thread = none) :
    resolve (c.untimed name) = resolve c := by
  have hkeys : (c.untimed name).pages.map (·.1) = c.pages.map (·.1) := by
    rw [Config.untimed, List.map_map]
    rfl
  have hnames : pageNames (c.untimed name) = pageNames c := by
    have hdefining : isDefining ∘ (fun entry : String × PageSettings =>
        (entry.1, if entry.1 = name then entry.2.untimed else entry.2)) = isDefining := by
      funext entry
      simp only [Function.comp_apply, isDefining]
      split <;> rfl
    rw [pageNames, pageNames, definedNames, definedNames, Config.untimed, List.filter_map, hdefining,
      List.map_map]
    rfl
  rw [resolve_eq (hkeys ▸ apart), resolve_eq apart, hnames]
  refine List.map_congr_left fun m _ => ?_
  rw [settled, Config.settings_untimed c name m]
  split
  · next heq =>
    subst heq
    rw [change_untimed pathless threadless]
    rfl
  · rfl

/-! ## Waits -/

/-- No two background fetches follow each other in less than a second, however they end, and no sleep between
them is shorter. -/
structure Unhurried (p : Fetch.Policy) : Prop where
  interval : .ofSecs 1 ≤ p.interval
  wait : ∀ outcomes, .ofSecs 1 ≤ p.waitAfter outcomes
  sleep : ∀ warm ends now, now + 1000 ≤ World.sleepEnd now (World.waitNow p warm ends)

/-- The wait that a timer counts is that after the outcomes of its background fetches. -/
theorem waitNow_eq (p : Fetch.Policy) (warm : Bool) (ends : List (Nat × Bool)) :
    World.waitNow p warm ends = p.waitAfter ((if warm then ends.tail else ends).map (·.2)) := by
  rw [World.waitNow, World.lastWait, Fetch.Policy.waitAfter, List.foldl_map]

theorem second_le_sleepEnd {d : Duration} (h : .ofSecs 1 ≤ d) (now : Nat) : now + 1000 ≤ World.sleepEnd now d := by
  have hnanos : 1 * 1000000000 ≤ d.nanos := h
  unfold World.sleepEnd
  split
  · exact Nat.add_le_add_left (by decide) now
  · simp only [Duration.ceilMillis, Duration.nanosPerMilli]
    omega

/-- No wait is shorter than the interval, so it is enough that this is no less than a second. -/
theorem unhurried_of_interval {p : Fetch.Policy} (h : .ofSecs 1 ≤ p.interval) : Unhurried p where
  interval := h
  wait := fun outcomes => Nat.le_trans h (p.interval_le_waitAfter outcomes)
  sleep := fun warm ends now => by
    rw [waitNow_eq]
    exact second_le_sleepEnd (Nat.le_trans h (p.interval_le_waitAfter _)) now

/-- An interval that is set is no less than a second. -/
theorem second_le_atLeastOne (n : Nat) : Duration.ofSecs 1 ≤ .ofSecs (max n 1) :=
  Nat.mul_le_mul_right _ (Nat.le_max_right n 1)

theorem second_le_base (name : String) : .ofSecs 1 ≤ (base name).policy.interval ∧
    ∀ t ∈ (base name).thread, .ofSecs 1 ≤ t.interval := by
  have hbuiltin : ∀ r ∈ builtin, .ofSecs 1 ≤ r.policy.interval ∧ ∀ t ∈ r.thread, .ofSecs 1 ≤ t.interval := by
    decide
  unfold base
  cases hfind : builtin.find? (·.name = name) with
  | none => exact ⟨Nat.mul_le_mul_right _ (by decide : 1 ≤ 60), by rintro _ ⟨⟩⟩
  | some r => exact hbuiltin r (List.mem_of_find?_eq_some hfind)

/-- What settings make of intervals of a second or more is no less. -/
theorem Follows.second_le {s : PageSettings} {d r : Resource} (f : Follows s d r)
    (page : .ofSecs 1 ≤ d.policy.interval) (threads : ∀ t ∈ d.thread, .ofSecs 1 ≤ t.interval) :
    .ofSecs 1 ≤ r.policy.interval ∧ ∀ t ∈ r.thread, .ofSecs 1 ≤ t.interval := by
  constructor
  · rw [f.interval]
    cases s.intervalSecs with
    | none => exact page
    | some n => exact second_le_atLeastOne _
  · intro t ht
    rw [f.threadInterval t ht]
    cases s.threadIntervalSecs with
    | some n => exact second_le_atLeastOne _
    | none =>
      cases hthread : d.thread with
      | none => decide
      | some template => exact threads template hthread

/-- The messages of a chat are fetched no more often than once in a second if their template says so. -/
theorem second_le_threadFor {r t : Resource} {id title : String} (h : r.threadFor id title = some t)
    (threads : ∀ t ∈ r.thread, .ofSecs 1 ≤ t.interval) : .ofSecs 1 ≤ t.policy.interval := by
  obtain ⟨template, hthread, rfl⟩ := Option.map_eq_some_iff.1 h
  have hnanos : 1 * 1000000000 ≤ template.interval.nanos := threads template hthread
  have hsecs : 1 ≤ template.interval.secs := by
    simp only [Duration.secs, Duration.nanosPerSec]
    omega
  exact Nat.mul_le_mul_right _ hsecs

/-! ## The pages of a configuration -/

/-- The pages of an accepted configuration: their names and order, what each of them is, which settings change
nothing, and how long a request and a wait between two background fetches take, also for the messages of a
chat. -/
theorem pages_of_settings {text : String} {c : Config} (accepted : Config.ofText text = .ok c) :
    (names (resolve c)).Nodup ∧
    (∃ added, names (resolve c) = names builtin ++ added ∧ added.Pairwise (· < ·) ∧
      ∀ name, name ∈ added ↔ name ∉ names builtin ∧ ∃ s, (name, s) ∈ c.pages ∧ s.sections.isSome) ∧
    (∀ entry ∈ c.pages, c.settings entry.1 = entry.2) ∧
    (∀ r ∈ resolve c, Follows (c.settings r.name) (base r.name) r) ∧
    (∀ name, name ∉ names builtin → (c.settings name).sections = none →
      resolve (c.without name) = resolve c) ∧
    (∀ name, (c.settings name).threadPath = none → (base name).thread = none →
      resolve (c.untimed name) = resolve c) ∧
    0 < c.api.timeoutSecs.toNat ∧
    (∀ r ∈ resolve c, ∀ p, p = r ∨ (∃ id title, r.threadFor id title = some p) →
      p.policy.timeout = .ofSecs c.api.timeoutSecs.toNat ∧ Unhurried p.policy) := by
  have hsorted := Config.pages_sorted accepted
  have hpairs : (c.pages.map (·.1)).Pairwise (· < ·) := List.pairwise_map.2 hsorted
  have hapart : (c.pages.map (·.1)).Nodup := hpairs.imp ne_of_lt
  have hfollows : ∀ r ∈ resolve c, Follows (c.settings r.name) (base r.name) r := by
    intro r hr
    have hsettled := follows_settled c r.name
    rwa [← settled_of_mem hapart hr] at hsettled
  refine ⟨nodup_names_resolve c, ⟨definedNames c.pages, names_eq hapart, ?_, fun name => mem_definedNames⟩,
    fun entry h => settings_of_mem hapart h, hfollows,
    fun name unknown sectionless => resolve_without hapart unknown sectionless,
    fun name pathless threadless => resolve_untimed hapart pathless threadless, ?_, ?_⟩
  · exact hpairs.sublist (List.filter_sublist.map _)
  · have hpos := Config.ofText_timeout_pos accepted
    exact Nat.pos_of_ne_zero fun h => hpos (UInt64.toNat_inj.1 h)
  · intro r hr p hp
    obtain ⟨hpage, hthreads⟩ := (hfollows r hr).second_le (second_le_base r.name).1 (second_le_base r.name).2
    rcases hp with rfl | ⟨id, title, hp⟩
    · exact ⟨resolve_timeout hr, unhurried_of_interval hpage⟩
    · have htimeout : p.policy.timeout = r.policy.timeout := by
        obtain ⟨template, -, rfl⟩ := Option.map_eq_some_iff.1 hp
        rfl
      exact ⟨htimeout.trans (resolve_timeout hr), unhurried_of_interval (second_le_threadFor hp hthreads)⟩

/-- A configuration that changes a built-in page, defines two pages in another order than that of their names,
gives one of them threads, and sets an interval for a page that it does not define. -/
def changedPages : String :=
  "api: \x7burl: https://crm.example.com/api\x7d\nresources:\n" ++
    "  rooms: \x7bthread_path: rooms, sections: []\x7d\n  ghost: \x7binterval_secs: 5\x7d\n" ++
    "  hosting: \x7binterval_secs: 0, thread_interval_secs: 7\x7d\n  deals: \x7bsections: []\x7d\n"

/-- The pages that it has, and what is left out of them. -/
theorem changed_pages : ∃ c, Config.ofText changedPages = .ok c ∧
    names (resolve c) = ["hosting", "avito", "chats", "deals", "rooms"] ∧
    resolve (c.without "ghost") = resolve c ∧ resolve (c.untimed "hosting") = resolve c ∧
    (∃ r ∈ resolve c, r.name = "hosting" ∧ r.policy.interval = .ofSecs 1) ∧
    ∃ r ∈ resolve c, r.name = "rooms" ∧
      ∃ p, r.threadFor "1" "One" = some p ∧ p.policy.timeout = .ofSecs c.api.timeoutSecs.toNat ∧
        Unhurried p.policy := by
  have hread : (Config.ofText changedPages).toOption.any (fun c =>
      (resolve c).map (fun r => (r.name, r.thread.isSome)) ==
          [("hosting", false), ("avito", true), ("chats", true), ("deals", false), ("rooms", true)] &&
        (c.settings "ghost").sections.isNone && (c.settings "hosting").threadPath.isNone &&
        (c.settings "hosting").intervalSecs == some 0) = true := by
    decide +kernel
  obtain ⟨c, hc, hfacts⟩ := Config.exists_of_any hread
  simp only [Bool.and_eq_true, beq_iff_eq, Option.isNone_iff_eq_none] at hfacts
  obtain ⟨⟨⟨hpages, hghost⟩, hpathless⟩, hinterval⟩ := hfacts
  obtain ⟨-, -, -, hfollows, hwithout, huntimed, -, hpolicies⟩ := pages_of_settings hc
  have hpage (page : String × Bool) (h : page ∈ (resolve c).map (fun r => (r.name, r.thread.isSome))) :
      ∃ r ∈ resolve c, r.name = page.1 ∧ r.thread.isSome = page.2 := by
    obtain ⟨r, hr, rfl⟩ := List.mem_map.1 h
    exact ⟨r, hr, rfl, rfl⟩
  rw [hpages] at hpage
  have hnames : names (resolve c) = ((resolve c).map fun r => (r.name, r.thread.isSome)).map (·.1) := by
    rw [List.map_map]
    rfl
  obtain ⟨hosting, hhosting, hname, -⟩ := hpage ("hosting", false) (by decide)
  obtain ⟨rooms, hrooms, hroomsName, hthread⟩ := hpage ("rooms", true) (by decide)
  obtain ⟨template, htemplate⟩ := Option.isSome_iff_exists.1 hthread
  have hmessages : ∃ p, rooms.threadFor "1" "One" = some p := ⟨_, by rw [threadFor, htemplate]; rfl⟩
  obtain ⟨p, hp⟩ := hmessages
  refine ⟨c, hc, by rw [hnames, hpages]; rfl, hwithout "ghost" (by decide) hghost,
    huntimed "hosting" hpathless (by decide), ⟨hosting, hhosting, hname, ?_⟩,
    rooms, hrooms, hroomsName, p, hp, hpolicies rooms hrooms p (.inr ⟨"1", "One", hp⟩)⟩
  rw [(hfollows hosting hhosting).interval, hname, hinterval]
  rfl

end Resource

end Lookout
