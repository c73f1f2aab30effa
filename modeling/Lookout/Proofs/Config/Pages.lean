import Lookout.Config.Read
import Mathlib.Data.String.Basic

/-!
# The pages of a configuration that was read

A dictionary is sorted while it is read: an entry goes to its place, and replaces one of the same name. So
the settings of an accepted configuration are in the order of the names of their pages, and there is one
entry for each.

* **`Yields`** — what holds of everything that a reader yields.
* **`Yields.readRecord`** — a record keeps what each of its entries keeps.
* **`pages_sorted`** — the settings of an accepted configuration are sorted, without repetition.
-/

namespace Lookout

namespace Yaml

/-- The entries are in the order of their names, and no two have one name. -/
def Sorted {α : Type} (entries : List (String × α)) : Prop := entries.Pairwise fun a b => a.1 < b.1

/-- Whatever is read has the property. -/
def Yields {α : Type} (reads : Reads α) (P : α → Prop) : Prop :=
  ∀ n x m, reads n = .ok (x, m) → P x

/-! ## Sorted entries -/

theorem mem_insertEntry {α : Type} {name : String} {x : α} {entries : List (String × α)} {e : String × α}
    (h : e ∈ insertEntry name x entries) : e = (name, x) ∨ e ∈ entries := by
  induction entries with
  | nil => exact .inl (List.mem_singleton.1 h)
  | cons first rest ih =>
    obtain ⟨n, y⟩ := first
    rw [insertEntry] at h
    split at h
    · exact List.mem_cons.1 h
    · split at h
      · exact (List.mem_cons.1 h).imp_right (List.mem_cons_of_mem _)
      · rcases List.mem_cons.1 h with rfl | h
        · exact .inr List.mem_cons_self
        · exact (ih h).imp_right (List.mem_cons_of_mem _)

/-- An entry goes to its place. -/
theorem sorted_insertEntry {α : Type} {entries : List (String × α)} (h : Sorted entries) (name : String)
    (x : α) : Sorted (insertEntry name x entries) := by
  induction entries with
  | nil => exact List.pairwise_singleton _ _
  | cons first rest ih =>
    obtain ⟨n, y⟩ := first
    obtain ⟨hfirst, hrest⟩ := List.pairwise_cons.1 h
    rw [insertEntry]
    split
    · next hlt =>
      refine List.pairwise_cons.2 ⟨fun e he => ?_, h⟩
      rcases List.mem_cons.1 he with rfl | he
      · exact hlt
      · exact lt_trans hlt (hfirst e he)
    · next hle =>
      split
      · next heq =>
        subst heq
        exact List.pairwise_cons.2 ⟨hfirst, hrest⟩
      · next hne =>
        have hlt : n < name := lt_of_le_of_ne (not_lt.1 hle) (Ne.symm hne)
        refine List.pairwise_cons.2 ⟨fun e he => ?_, ih hrest⟩
        rcases mem_insertEntry he with rfl | he
        · exact hlt
        · exact hfirst e he

namespace Yields

variable {α β ρ : Type} {P : α → Prop} {Q : β → Prop}

/-! ## Steps of a reader -/

theorem pure {x : α} (h : P x) : Yields (Pure.pure x) P := by
  rintro n y m ⟨⟩
  exact h

theorem throw (e : ReadError) : Yields (MonadExcept.throw e) P := by
  rintro n y m ⟨⟩

theorem anything (reads : Reads α) : Yields reads fun _ => True := fun _ _ _ _ => trivial

theorem bind {reads : Reads α} {next : α → Reads β} (first : Yields reads P)
    (rest : ∀ x, P x → Yields (next x) Q) : Yields (reads >>= next) Q := by
  intro n y m h
  change (reads n >>= fun p => next p.1 p.2) = .ok (y, m) at h
  cases hreads : reads n with
  | error e =>
    rw [hreads] at h
    cases h
  | ok p =>
    rw [hreads] at h
    exact rest p.1 (first n p.1 p.2 hreads) p.2 y m h

/-- A step whose result does not matter may be passed over. -/
theorem after {reads : Reads α} {next : α → Reads β} (h : ∀ x, Yields (next x) Q) :
    Yields (reads >>= next) Q :=
  (anything reads).bind fun x _ => h x

theorem map {reads : Reads α} {f : α → β} (h : Yields reads fun x => Q (f x)) :
    Yields (f <$> reads) Q := by
  rw [← bind_pure_comp]
  exact h.bind fun x hx => Yields.pure hx

theorem located {reads : Reads α} (h : Yields reads P) (mark : Mark) (path : Path) :
    Yields (Yaml.located mark path reads) P := by
  intro n x m hx
  unfold Yaml.located at hx
  split at hx
  · cases hx
  · exact h n x m hx

/-- A node stands for the same as an alias of it. -/
theorem atNode {read : NodeReader α} (h : ∀ ctx node, Yields (read ctx node) P) (ctx : Context)
    (node : Node) : Yields (Yaml.atNode read ctx node) P := by
  unfold Yaml.atNode
  split
  · exact (after fun target => (h ctx target).located _ _).located _ _
  · exact (h ctx _).located _ _

theorem mistyped (expected : String) (node : Node) : Yields (Yaml.mistyped expected node : Reads α) P := by
  unfold Yaml.mistyped
  split
  · split <;> exact throw _
  all_goals exact throw _

/-! ## Records -/

theorem readRecordEntries {P : ρ → Prop} {known : List (Entry ρ)}
    (kept : ∀ entry ∈ known, ∀ ctx node, Yields (entry.read ctx node) fun change => ∀ r, P r → P (change r))
    (ctx : Context) (entries : List (Node × Node)) (seen : List String) (r : ρ) (h : P r) :
    Yields (Yaml.readRecordEntries known ctx seen r entries) fun found => P found.2 := by
  induction entries generalizing seen r with
  | nil => exact pure h
  | cons entry entries ih =>
    obtain ⟨key, value⟩ := entry
    refine after fun _ => after fun name => ?_
    split
    · exact after fun _ => ih seen r h
    · next entry hentry =>
      have hchange := kept entry (List.mem_of_find?_eq_some hentry) (ctx.behind key) value
      split
      · exact after fun _ => hchange.bind fun change hkeeps => ih _ _ (hkeeps r h)
      · exact hchange.bind fun change hkeeps => ih _ _ (hkeeps r h)

/-- A record has a property that it starts with and that each of its entries keeps. -/
theorem readRecord {P : ρ → Prop} {kind : String} {known : List (Entry ρ)} {initial : ρ} (h : P initial)
    (kept : ∀ entry ∈ known, ∀ ctx node, Yields (entry.read ctx node) fun change => ∀ r, P r → P (change r))
    (ctx : Context) (node : Node) : Yields (Yaml.readRecord kind known initial ctx node) P := by
  refine atNode (fun ctx node => ?_) ctx node
  dsimp only
  split
  case' h_1 =>
    refine after fun ctx => (readRecordEntries kept ctx _ [] initial h).bind fun found hfound => ?_
  case' h_2 =>
    split
    case' isTrue => refine bind (pure (P := fun found : List String × ρ => P found.2) h) fun found hfound => ?_
    case' isFalse => refine bind (mistyped (P := fun found => P found.2) _ _) fun found hfound => ?_
  -- However the entries were found, a required one may be missing.
  all_goals
    split
    · exact throw _
    · exact pure hfound

/-! ## Dictionaries -/

theorem readEntries {read : NodeReader α} {ctx : Context} (entries : List (Node × Node))
    (found : List (String × α)) (h : Sorted found) : Yields (Yaml.readEntries read ctx found entries) Sorted := by
  induction entries generalizing found with
  | nil => exact pure h
  | cons entry entries ih =>
    obtain ⟨key, value⟩ := entry
    exact after fun _ => after fun name => after fun x => ih _ (sorted_insertEntry h name x)

/-- A dictionary is sorted. -/
theorem readDictionary (read : NodeReader α) (ctx : Context) (node : Node) :
    Yields (Yaml.readDictionary read ctx node) Sorted := by
  refine atNode (fun ctx node => ?_) ctx node
  split
  · exact after fun ctx => readEntries _ [] List.Pairwise.nil
  · split
    · exact pure List.Pairwise.nil
    · exact mistyped _ _

end Yields

/-- A document has what its reader yields. -/
theorem property_of_readDocument {α : Type} {P : α → Prop} {read : NodeReader α} {text : String} {x : α}
    (yields : ∀ ctx node, Yields (read ctx node) P) (h : readDocument read text = .ok x) : P x := by
  unfold readDocument at h
  dsimp only at h
  split at h
  · cases h
  · next y n hread =>
    split at h
    · cases h
      exact yields _ _ _ _ _ hread
    · cases h
    · cases h

end Yaml

namespace Config

/-- Everything but the settings for pages leaves these as they are. -/
theorem yields_sorted (ctx : Yaml.Context) (node : Yaml.Node) :
    Yaml.Yields (Config.read ctx node) fun c => Yaml.Sorted c.pages := by
  have hnone : Yaml.Sorted ([] : List (String × PageSettings)) := List.Pairwise.nil
  refine Yaml.Yields.readRecord (P := fun c : Config => Yaml.Sorted c.pages) ?_ (fun entry hentry => ?_)
    ctx node
  · exact hnone
  · intro ctx node
    simp only [List.mem_cons, List.not_mem_nil, or_false] at hentry
    rcases hentry with rfl | rfl | rfl | rfl | rfl
    case inr.inr.inr.inr =>
      exact Yaml.Yields.map fun n l m hread _ _ => Yaml.Yields.readDictionary _ _ _ n l m hread
    all_goals exact Yaml.Yields.map fun _ _ _ _ _ h => h

/-- The settings of an accepted configuration are sorted by the names of the pages, one entry for each. -/
theorem pages_sorted {text : String} {c : Config} (h : Config.ofText text = .ok c) :
    Yaml.Sorted c.pages := by
  unfold Config.ofText at h
  split at h
  · cases h
  · next c' hread =>
    split at h
    · cases h
    · cases h
      exact Yaml.property_of_readDocument (P := fun c : Config => Yaml.Sorted c.pages) yields_sorted hread

end Config

end Lookout
