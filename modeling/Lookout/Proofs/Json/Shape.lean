import Lookout.Json.Reader
import Mathlib.Data.List.Induction
import Mathlib.Data.String.Basic

/-!
# The shape of documents

How deep lists and objects nest in a document, whether the members of its objects stand in increasing
order of their names, and which double-precision numbers occur in it.

* **`sortFields_of_increasing`** — members that are in order stay as they are.
* **`readValue_shaped`** — what is read is in order and nests no deeper than the reader was allowed to go.
-/

namespace Lookout.Json

mutual

/-- How deep lists and objects nest. -/
def depth : Json → Nat
  | .arr items => depthItems items + 1
  | .obj fields => depthFields fields + 1
  | _ => 0

/-- How deep the items of a list nest. -/
def depthItems : List Json → Nat
  | [] => 0
  | v :: rest => max (depth v) (depthItems rest)

/-- How deep the members of an object nest. -/
def depthFields : List (String × Json) → Nat
  | [] => 0
  | (_, v) :: rest => max (depth v) (depthFields rest)

end

/-- Members in strictly increasing order of their names. -/
def Increasing (fields : List (String × Json)) : Prop := fields.Pairwise fun f g => f.1 < g.1

mutual

/-- The members of every object stand in increasing order. -/
def Ordered : Json → Prop
  | .arr items => OrderedItems items
  | .obj fields => Increasing fields ∧ OrderedFields fields
  | _ => True

/-- The members of every object within the items of a list stand in increasing order. -/
def OrderedItems : List Json → Prop
  | [] => True
  | v :: rest => Ordered v ∧ OrderedItems rest

/-- The members of every object within the members of an object stand in increasing order. -/
def OrderedFields : List (String × Json) → Prop
  | [] => True
  | (_, v) :: rest => Ordered v ∧ OrderedFields rest

end

mutual

/-- The double-precision numbers of a document. -/
def reals : Json → List Binary64
  | .num (.real x _) => [x]
  | .arr items => realsItems items
  | .obj fields => realsFields fields
  | _ => []

/-- The double-precision numbers of the items of a list. -/
def realsItems : List Json → List Binary64
  | [] => []
  | v :: rest => reals v ++ realsItems rest

/-- The double-precision numbers of the members of an object. -/
def realsFields : List (String × Json) → List Binary64
  | [] => []
  | (_, v) :: rest => reals v ++ realsFields rest

end

theorem orderedItems_iff (items : List Json) : OrderedItems items ↔ ∀ v ∈ items, Ordered v := by
  induction items with
  | nil => simp [OrderedItems]
  | cons v rest ih => simp [OrderedItems, ih]

theorem orderedFields_iff (fields : List (String × Json)) :
    OrderedFields fields ↔ ∀ f ∈ fields, Ordered f.2 := by
  induction fields with
  | nil => simp [OrderedFields]
  | cons f rest ih =>
    obtain ⟨n, v⟩ := f
    simp only [OrderedFields, ih, List.forall_mem_cons]

theorem depthFields_le_iff (fields : List (String × Json)) (d : Nat) :
    depthFields fields ≤ d ↔ ∀ f ∈ fields, depth f.2 ≤ d := by
  induction fields with
  | nil => simp [depthFields]
  | cons f rest ih =>
    obtain ⟨n, v⟩ := f
    simp only [depthFields, Nat.max_le, ih, List.forall_mem_cons]

theorem mem_realsItems_iff (items : List Json) (x : Binary64) :
    x ∈ realsItems items ↔ ∃ v ∈ items, x ∈ reals v := by
  induction items with
  | nil => simp [realsItems]
  | cons v rest ih => simp only [realsItems, List.mem_append, ih, List.exists_mem_cons_iff]

theorem mem_realsFields_iff (fields : List (String × Json)) (x : Binary64) :
    x ∈ realsFields fields ↔ ∃ f ∈ fields, x ∈ reals f.2 := by
  induction fields with
  | nil => simp [realsFields]
  | cons f rest ih =>
    obtain ⟨n, v⟩ := f
    simp only [realsFields, List.mem_append, ih, List.exists_mem_cons_iff]

theorem mem_of_lookup {name : String} {fields : List (String × Json)} {v : Json}
    (h : lookup name fields = some v) : (name, v) ∈ fields := by
  induction fields with
  | nil => cases h
  | cons f rest ih =>
    obtain ⟨n, u⟩ := f
    rw [lookup] at h
    split at h
    · next same =>
      cases h
      exact same ▸ List.mem_cons_self
    · exact List.mem_cons_of_mem _ (ih h)

/-- A member of a document in order is in order. -/
theorem Ordered.get? {v w : Json} {name : String} (h : Ordered v) (hw : Json.get? name v = some w) :
    Ordered w := by
  cases v with
  | obj fields => exact (orderedFields_iff fields).1 h.2 _ (mem_of_lookup hw)
  | null | bool | num | str | arr => cases hw

/-! ## Setting members -/

theorem mem_insertField {name : String} {value : Json} {fields : List (String × Json)}
    {f : String × Json} (h : f ∈ insertField name value fields) : f = (name, value) ∨ f ∈ fields := by
  induction fields with
  | nil => exact .inl (by simpa [insertField] using h)
  | cons g rest ih =>
    obtain ⟨n, v⟩ := g
    rw [insertField] at h
    split at h
    · simpa using h
    · split at h
      · rcases List.mem_cons.1 h with h | h
        · exact .inl h
        · exact .inr (List.mem_cons_of_mem _ h)
      · rcases List.mem_cons.1 h with h | h
        · exact .inr (h ▸ List.mem_cons_self)
        · exact (ih h).imp_right (List.mem_cons_of_mem _)

/-- Setting a member keeps the order. -/
theorem Increasing.insertField {fields : List (String × Json)} (h : Increasing fields)
    (name : String) (value : Json) : Increasing (Json.insertField name value fields) := by
  induction fields with
  | nil => simp [Json.insertField, Increasing]
  | cons g rest ih =>
    obtain ⟨n, v⟩ := g
    have hrest : Increasing rest := (List.pairwise_cons.1 h).2
    have hhead : ∀ f ∈ rest, n < f.1 := (List.pairwise_cons.1 h).1
    rw [Json.insertField]
    split
    · next before =>
      refine List.pairwise_cons.2 ⟨?_, h⟩
      intro f hf
      rcases List.mem_cons.1 hf with rfl | hf
      · exact before
      · exact lt_trans before (hhead f hf)
    · next notBefore =>
      split
      · next same =>
        subst same
        exact List.pairwise_cons.2 ⟨hhead, hrest⟩
      · next different =>
        have after : n < name := lt_of_le_of_ne (not_lt.1 notBefore) (Ne.symm different)
        refine List.pairwise_cons.2 ⟨?_, ih hrest⟩
        intro f hf
        rcases mem_insertField hf with rfl | hf
        · exact after
        · exact hhead f hf

/-- A member whose name comes behind all others is set at the end. -/
theorem insertField_of_last {name : String} {fields : List (String × Json)}
    (h : ∀ f ∈ fields, f.1 < name) (value : Json) :
    insertField name value fields = fields ++ [(name, value)] := by
  induction fields with
  | nil => rfl
  | cons g rest ih =>
    obtain ⟨n, v⟩ := g
    have hn : n < name := h (n, v) List.mem_cons_self
    rw [insertField, if_neg (not_lt.2 hn.le), if_neg hn.ne',
      ih fun f hf => h f (List.mem_cons_of_mem _ hf)]
    rfl

/-! ## Sorting members -/

theorem sortFields_append (fields : List (String × Json)) (name : String) (value : Json) :
    sortFields (fields ++ [(name, value)]) = insertField name value (sortFields fields) := by
  simp only [sortFields, List.foldl_append, List.foldl_cons, List.foldl_nil]

theorem increasing_sortFields (fields : List (String × Json)) : Increasing (sortFields fields) := by
  induction fields using List.reverseRecOn with
  | nil => exact List.Pairwise.nil
  | append_singleton fields f ih =>
    rw [sortFields_append]
    exact ih.insertField _ _

theorem mem_sortFields {fields : List (String × Json)} {f : String × Json}
    (h : f ∈ sortFields fields) : f ∈ fields := by
  induction fields using List.reverseRecOn with
  | nil => exact h
  | append_singleton fields g ih =>
    rw [sortFields_append] at h
    rcases mem_insertField h with rfl | h
    · simp
    · exact List.mem_append_left _ (ih h)

/-- Members that are in order stay as they are. -/
theorem sortFields_of_increasing {fields : List (String × Json)} (h : Increasing fields) :
    sortFields fields = fields := by
  induction fields using List.reverseRecOn with
  | nil => rfl
  | append_singleton fields f ih =>
    obtain ⟨hfields, -, hlast⟩ := List.pairwise_append.1 h
    rw [sortFields_append, ih hfields]
    exact insertField_of_last (fun g hg => hlast g hg f (by simp)) f.2

theorem orderedFields_sortFields {fields : List (String × Json)} (h : OrderedFields fields) :
    OrderedFields (sortFields fields) := by
  rw [orderedFields_iff] at h ⊢
  exact fun f hf => h f (mem_sortFields hf)

theorem depthFields_sortFields_le (fields : List (String × Json)) :
    depthFields (sortFields fields) ≤ depthFields fields := by
  rw [depthFields_le_iff]
  exact fun f hf => (depthFields_le_iff fields _).1 le_rfl f (mem_sortFields hf)

/-! ## What is read -/

/-- A document in order that nests at most `d` deep. -/
structure Shaped (d : Nat) (v : Json) : Prop where
  ordered : Ordered v
  depth_le : depth v ≤ d

/-- The three readers with a bound on the number of parts read only shaped documents. -/
structure ReadsShaped (skipping : Bool) (fuel : Nat) : Prop where
  value : ∀ {d : Nat} {cs rest : List Char} {v : Json},
    readValue skipping fuel d cs = some (v, rest) → Shaped d v
  items : ∀ {d : Nat} {cs rest : List Char} {vs : List Json},
    readItems skipping fuel d cs = some (vs, rest) → OrderedItems vs ∧ depthItems vs ≤ d
  fields : ∀ {d : Nat} {cs rest : List Char} {fs : List (String × Json)},
    readFields skipping fuel d cs = some (fs, rest) → OrderedFields fs ∧ depthFields fs ≤ d

theorem readValue_shaped_of {skipping : Bool} {fuel : Nat} (ih : ReadsShaped skipping fuel) {d : Nat}
    {cs rest : List Char} {v : Json} (h : readValue skipping (fuel + 1) d cs = some (v, rest)) :
    Shaped d v := by
  rw [readValue] at h
  split at h
  · cases h; exact ⟨trivial, Nat.zero_le _⟩
  · cases h; exact ⟨trivial, Nat.zero_le _⟩
  · cases h; exact ⟨trivial, Nat.zero_le _⟩
  · obtain ⟨p, -, hp⟩ := Option.map_eq_some_iff.1 h
    cases hp
    exact ⟨trivial, Nat.zero_le _⟩
  · cases d with
    | zero => cases h
    | succ d =>
      dsimp only at h
      split at h
      · cases h
        exact ⟨trivial, by simp [depth, depthItems]⟩
      · obtain ⟨p, hp, hv⟩ := Option.map_eq_some_iff.1 h
        cases hv
        have hi := ih.items hp
        exact ⟨hi.1, Nat.succ_le_succ hi.2⟩
  · cases d with
    | zero => cases h
    | succ d =>
      dsimp only at h
      split at h
      · cases h
        exact ⟨⟨List.Pairwise.nil, trivial⟩, by simp [depth, depthFields]⟩
      · obtain ⟨p, hp, hv⟩ := Option.map_eq_some_iff.1 h
        cases hv
        have hf := ih.fields hp
        refine ⟨⟨increasing_sortFields _, orderedFields_sortFields hf.1⟩, ?_⟩
        exact Nat.succ_le_succ ((depthFields_sortFields_le _).trans hf.2)
  · split at h
    · obtain ⟨p, -, hp⟩ := Option.map_eq_some_iff.1 h
      cases hp
      exact ⟨trivial, Nat.zero_le _⟩
    · obtain ⟨p, -, hp⟩ := Option.map_eq_some_iff.1 h
      cases hp
      exact ⟨trivial, Nat.zero_le _⟩

theorem readItems_shaped_of {skipping : Bool} {fuel : Nat} (ih : ReadsShaped skipping fuel) {d : Nat}
    {cs rest : List Char} {vs : List Json}
    (h : readItems skipping (fuel + 1) d cs = some (vs, rest)) :
    OrderedItems vs ∧ depthItems vs ≤ d := by
  rw [readItems] at h
  split at h
  · cases h
  · next item rest' hitem =>
    have hv := ih.value hitem
    split at h
    · cases h
      exact ⟨⟨hv.ordered, trivial⟩, Nat.max_le.2 ⟨hv.depth_le, Nat.zero_le _⟩⟩
    · obtain ⟨p, hp, hvs⟩ := Option.map_eq_some_iff.1 h
      cases hvs
      have hi := ih.items hp
      exact ⟨⟨hv.ordered, hi.1⟩, Nat.max_le.2 ⟨hv.depth_le, hi.2⟩⟩
    · cases h

theorem readFields_shaped_of {skipping : Bool} {fuel : Nat} (ih : ReadsShaped skipping fuel) {d : Nat}
    {cs rest : List Char} {fs : List (String × Json)}
    (h : readFields skipping (fuel + 1) d cs = some (fs, rest)) :
    OrderedFields fs ∧ depthFields fs ≤ d := by
  rw [readFields] at h
  split at h
  · cases h
  · split at h
    · cases h
    · next value rest' hvalue =>
      have hv := ih.value hvalue
      split at h
      · cases h
        exact ⟨⟨hv.ordered, trivial⟩, Nat.max_le.2 ⟨hv.depth_le, Nat.zero_le _⟩⟩
      · obtain ⟨p, hp, hfs⟩ := Option.map_eq_some_iff.1 h
        cases hfs
        have hf := ih.fields hp
        exact ⟨⟨hv.ordered, hf.1⟩, Nat.max_le.2 ⟨hv.depth_le, hf.2⟩⟩
      · cases h

theorem readsShaped (skipping : Bool) (fuel : Nat) : ReadsShaped skipping fuel := by
  induction fuel with
  | zero =>
    refine ⟨fun h => ?_, fun h => ?_, fun h => ?_⟩
    · simp [readValue] at h
    · simp [readItems] at h
    · simp [readFields] at h
  | succ fuel ih =>
    exact ⟨readValue_shaped_of ih, readItems_shaped_of ih, readFields_shaped_of ih⟩

/-- What is read is in order and nests no deeper than the reader was allowed to go. -/
theorem readValue_shaped {skipping : Bool} {fuel d : Nat} {cs rest : List Char} {v : Json}
    (h : readValue skipping fuel d cs = some (v, rest)) : Shaped d v :=
  (readsShaped skipping fuel).value h

/-- A document that is the whole of a text is in order and nests at most 127 deep. -/
theorem parse?_shaped {s : String} {v : Json} (h : parse? s = some v) : Shaped maxDepth v := by
  unfold parse? parseWithin at h
  dsimp only at h
  split at h
  · next w rest hw =>
    split at h
    · cases h
      exact readValue_shaped hw
    · cases h
  · cases h

end Lookout.Json
