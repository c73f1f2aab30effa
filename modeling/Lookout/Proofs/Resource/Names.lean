import Lookout.Resource.Resolve
import Mathlib.Data.List.Nodup

/-!
# The names of pages

Every page has a name of its own. The built-in pages are there whatever is configured: settings change
them, and only settings for another name define a page.

* **`nodup_names_resolve`** — no two pages have one name.
* **`find?_name`** — a page is found by its name.
* **`forall_resolve`** — what holds of the built-in pages and of new ones, and is kept by settings, holds
  of all pages.
-/

namespace Lookout.Resource

/-- The names of resources, in order. -/
def names (resources : List Resource) : List String := resources.map (·.name)

/-- The page that settings for a new name define. -/
def defined (entry : String × PageSettings) : Resource :=
  (new entry.1 entry.1 .generic entry.1 60 [] none).change entry.2

theorem any_name_iff {resources : List Resource} {name : String} :
    resources.any (·.name = name) = true ↔ name ∈ names resources := by
  simp [names, List.any_eq_true]

/-! ## Settings for one name -/

theorem names_addSettings (resources : List Resource) (entry : String × PageSettings) :
    names (addSettings resources entry) =
      if entry.1 ∈ names resources then names resources
      else if entry.2.sections.isSome then names resources ++ [entry.1] else names resources := by
  obtain ⟨name, s⟩ := entry
  unfold addSettings
  dsimp only
  by_cases hname : name ∈ names resources
  · rw [if_pos (any_name_iff.2 hname), if_pos hname, names, List.map_map]
    refine List.map_congr_left fun r _ => ?_
    show (if r.name = name then r.change s else r).name = r.name
    split <;> rfl
  · rw [if_neg (mt any_name_iff.1 hname), if_neg hname]
    split
    · rw [names, List.map_append]
      rfl
    · rfl

/-- After the settings for one name, a resource is one that was there before, one with the new settings, or
the one that they define. -/
theorem mem_addSettings {resources : List Resource} {entry : String × PageSettings} {r : Resource}
    (h : r ∈ addSettings resources entry) :
    r ∈ resources ∨ (∃ q ∈ resources, r = q.change entry.2) ∨
      entry.1 ∉ names resources ∧ entry.2.sections.isSome ∧ r = defined entry := by
  obtain ⟨name, s⟩ := entry
  unfold addSettings at h
  dsimp only at h
  split at h
  · obtain ⟨q, hq, rfl⟩ := List.mem_map.1 h
    split
    · exact .inr (.inl ⟨q, hq, rfl⟩)
    · exact .inl hq
  · next hnew =>
    split at h
    · next hsections =>
      rcases List.mem_append.1 h with hr | hr
      · exact .inl hr
      · exact .inr (.inr ⟨mt any_name_iff.2 hnew, hsections, List.mem_singleton.1 hr⟩)
    · exact .inl h

/-! ## All settings -/

theorem names_resolve (c : Config) : names (resolve c) = names (c.pages.foldl addSettings builtin) := by
  rw [resolve, names, List.map_map]
  rfl

/-- Settings never take a page away. -/
theorem names_subset_foldl (resources : List Resource) (entries : List (String × PageSettings)) :
    names resources ⊆ names (entries.foldl addSettings resources) := by
  induction entries generalizing resources with
  | nil => exact List.Subset.refl _
  | cons entry entries ih =>
    refine List.Subset.trans ?_ (ih (addSettings resources entry))
    rw [names_addSettings]
    split
    · exact List.Subset.refl _
    · split
      · exact List.subset_append_left _ _
      · exact List.Subset.refl _

/-- The built-in pages are among the pages of every configuration. -/
theorem names_builtin_subset (c : Config) : names builtin ⊆ names (resolve c) := by
  rw [names_resolve]
  exact names_subset_foldl builtin c.pages

/-- No two pages have one name. -/
theorem nodup_names_resolve (c : Config) : (names (resolve c)).Nodup := by
  have hfold (entries : List (String × PageSettings)) (resources : List Resource)
      (h : (names resources).Nodup) : (names (entries.foldl addSettings resources)).Nodup := by
    induction entries generalizing resources with
    | nil => exact h
    | cons entry entries ih =>
      refine ih _ ?_
      rw [names_addSettings]
      split
      · exact h
      · next hnew =>
        split
        · exact h.append (List.nodup_singleton _) (List.disjoint_singleton.2 hnew)
        · exact h
  rw [names_resolve]
  exact hfold c.pages builtin (by decide)

/-- Two pages with one name are the same. -/
theorem eq_of_name {c : Config} {r s : Resource} (hr : r ∈ resolve c) (hs : s ∈ resolve c)
    (h : r.name = s.name) : r = s :=
  List.inj_on_of_nodup_map (nodup_names_resolve c) hr hs h

/-- A page is found by its name. -/
theorem find?_name {c : Config} {r : Resource} (h : r ∈ resolve c) :
    (resolve c).find? (·.name = r.name) = some r := by
  obtain ⟨s, hs⟩ : ∃ s, (resolve c).find? (·.name = r.name) = some s := by
    rw [← Option.isSome_iff_exists, List.find?_isSome]
    exact ⟨r, h, by simp⟩
  have hname : s.name = r.name := by simpa using List.find?_some hs
  rw [hs, eq_of_name (List.mem_of_find?_eq_some hs) h hname]

/-- There is a page for every built-in name. -/
theorem exists_of_mem_builtin (c : Config) {name : String} (h : name ∈ names builtin) :
    ∃ r ∈ resolve c, r.name = name :=
  List.mem_map.1 (names_builtin_subset c h)

/-- What holds of the built-in pages and of those that settings define, and is kept by settings and the
timeout, holds of all pages. -/
theorem forall_resolve {P : Resource → Prop} {c : Config} (isBuiltin : ∀ r ∈ builtin, P r)
    (isDefined : ∀ entry ∈ c.pages, entry.1 ∉ names builtin → entry.2.sections.isSome → P (defined entry))
    (changed : ∀ r, P r → ∀ entry ∈ c.pages, P (r.change entry.2))
    (timed : ∀ r, P r → P (r.withTimeout c.timeout)) : ∀ r ∈ resolve c, P r := by
  have hfold (entries : List (String × PageSettings)) (hentries : entries ⊆ c.pages)
      (resources : List Resource) (hnames : names builtin ⊆ names resources)
      (h : ∀ r ∈ resources, P r) : ∀ r ∈ entries.foldl addSettings resources, P r := by
    induction entries generalizing resources with
    | nil => exact h
    | cons entry entries ih =>
      have hentry : entry ∈ c.pages := hentries List.mem_cons_self
      refine ih (fun e he => hentries (List.mem_cons_of_mem _ he)) _
        (List.Subset.trans hnames (names_subset_foldl resources [entry])) fun r hr => ?_
      rcases mem_addSettings hr with hr | ⟨q, hq, rfl⟩ | ⟨hnew, hsections, rfl⟩
      · exact h r hr
      · exact changed q (h q hq) entry hentry
      · exact isDefined entry hentry (fun hbuiltin => hnew (hnames hbuiltin)) hsections
  intro r hr
  obtain ⟨q, hq, rfl⟩ := List.mem_map.1 hr
  exact timed q (hfold c.pages (List.Subset.refl _) builtin (List.Subset.refl _) isBuiltin q hq)

end Lookout.Resource
