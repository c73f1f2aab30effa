import Lookout.Decode.Record

/-!
# Parts of a document

The readers of records and lists read each part with a reader of its own, go on with the value and give up
with the failure. So what is read from a whole document depends on an object in it only by what is read from
that object, and fails if that fails.

* **`hinges_readMembers`**, **`hinges_readPositions`**, **`hinges_readEach`** — the members of an object, the
  fields in a list and the items of a list.
* **`Through`** — what is read from an object somewhere in a document decides on the whole; from
  `Through.hole` on it is shown step by step outwards.
-/

namespace Lookout

/-- A document with a hole. -/
inductive Json.Context
  | hole
  | member (front : List (String × Json)) (name : String) (inside : Json.Context)
    (back : List (String × Json))
  | item (front : List Json) (inside : Json.Context) (back : List Json)

/-- The document with another one in the hole. -/
def Json.Context.fill (v : Json) : Json.Context → Json
  | .hole => v
  | .member front name inside back => .obj (front ++ (name, inside.fill v) :: back)
  | .item front inside back => .arr (front ++ inside.fill v :: back)

/-- The hole of `c` is within a field of a record: the member of a name in an object, or the item of a number
in a list. -/
inductive Json.Context.IsField (name : String) (i : Nat) (c : Json.Context) : Json.Context → Prop
  | member (front back : List (String × Json)) : IsField name i c (.member front name c back)
  | item (front back : List Json) (number : front.length = i) : IsField name i c (.item front c back)

theorem Json.Context.fill_ne_null {v : Json} (h : v ≠ .null) (c : Json.Context) : c.fill v ≠ .null := by
  cases c with
  | hole => exact h
  | member | item => exact Json.noConfusion

namespace Decode

open Json (Context)

variable {ι α β γ ρ : Type}

/-! ## What answers hinge on -/

/-- The answers of `g` depend on those of `q`, and are failures where these are. -/
def Hinges (g : ι → Except Mismatch α) (q : ι → Except Mismatch β) : Prop :=
  ∃ goOn : Except Mismatch β → Except Mismatch α,
    (∀ e, ∃ e', goOn (.error e) = .error e') ∧ ∀ i, g i = goOn (q i)

section

variable {g : ι → Except Mismatch α} {q : ι → Except Mismatch β}

theorem Hinges.refl (q : ι → Except Mismatch β) : Hinges q q := ⟨id, fun e => ⟨e, rfl⟩, fun _ => rfl⟩

theorem Hinges.refused (e : Mismatch) (q : ι → Except Mismatch β) :
    Hinges (fun _ => (.error e : Except Mismatch α)) q :=
  ⟨fun _ => .error e, fun _ => ⟨e, rfl⟩, fun _ => rfl⟩

/-- What goes on with a value hinges on what gives the value. -/
theorem Hinges.bind (h : Hinges g q) (next : α → Except Mismatch γ) :
    Hinges (fun i => (g i).bind next) q := by
  obtain ⟨goOn, hgoOn, hg⟩ := h
  refine ⟨fun x => (goOn x).bind next, fun e => ?_, fun i => congrArg (·.bind next) (hg i)⟩
  obtain ⟨e', he'⟩ := hgoOn e
  exact ⟨e', congrArg (·.bind next) he'⟩

theorem Hinges.map (h : Hinges g q) (change : α → γ) : Hinges (fun i => (g i).map change) q := by
  have heq : ∀ x : Except Mismatch α, x.map change = x.bind fun y => .ok (change y) := fun x => by
    cases x <;> rfl
  simp only [heq]
  exact h.bind _

/-- What hinges on a failure fails. -/
theorem Hinges.error (h : Hinges g q) {i : ι} (failed : ∃ e, q i = .error e) : ∃ e, g i = .error e := by
  obtain ⟨goOn, hgoOn, hg⟩ := h
  obtain ⟨e, he⟩ := failed
  rw [hg i, he]
  exact hgoOn e

theorem Hinges.congr (h : Hinges g q) {i j : ι} (heq : q i = q j) : g i = g j := by
  obtain ⟨goOn, -, hg⟩ := h
  rw [hg i, hg j, heq]

end

/-! ## One step into a document -/

section

variable {v : ι → Json} {q : ι → Except Mismatch β} {read : Reader α}

theorem readEach_cons (read : Reader α) (u : Json) (rest : List Json) :
    readEach read (u :: rest) = (read u).bind fun x => (readEach read rest).map (x :: ·) := by
  rw [readEach]
  cases read u with
  | error e => rfl
  | ok x => cases readEach read rest <;> rfl

/-- What is read from a list hinges on each of its items. -/
theorem hinges_readEach (h : Hinges (fun i => read (v i)) q) (front back : List Json) :
    Hinges (fun i => readEach read (front ++ v i :: back)) q := by
  induction front with
  | nil =>
    simp only [List.nil_append, readEach_cons]
    exact h.bind _
  | cons u front ih =>
    simp only [List.cons_append, readEach_cons]
    cases read u with
    | error e => exact .refused e q
    | ok x => exact ih.map _

variable {fields : List (Field ρ)} {f : Field ρ} {name : String}

theorem readMembers_cons (hfind : fields.find? (·.answersTo name) = some f) (seen : List String) (r : ρ)
    (u : Json) (rest : List (String × Json)) :
    readMembers fields seen r ((name, u) :: rest) =
      if seen.contains f.name then .error (.duplicateField f.name)
      else (f.read u r).bind fun r => readMembers fields (f.name :: seen) r rest := by
  rw [readMembers, hfind]
  dsimp only
  split
  · rfl
  · cases f.read u r <;> rfl

/-- What is read from an object hinges on each of its known members. -/
theorem hinges_readMembers (hfind : fields.find? (·.answersTo name) = some f)
    (h : ∀ r, Hinges (fun i => f.read (v i) r) q) (seen : List String) (r : ρ)
    (front back : List (String × Json)) :
    Hinges (fun i => readMembers fields seen r (front ++ (name, v i) :: back)) q := by
  induction front generalizing seen r with
  | nil =>
    simp only [List.nil_append, readMembers_cons hfind]
    split
    · exact .refused _ q
    · exact (h r).bind _
  | cons m front ih =>
    obtain ⟨other, u⟩ := m
    simp only [List.cons_append]
    cases hother : fields.find? (·.answersTo other) with
    | none => simpa only [readMembers, hother] using ih seen r
    | some g =>
      simp only [readMembers_cons hother]
      split
      · exact .refused _ q
      · cases g.read u r with
        | error e => exact .refused e q
        | ok r => exact ih _ r

theorem readPositions_cons (expected : String) (total position : Nat) (f : Field ρ)
    (fields : List (Field ρ)) (r : ρ) (u : Json) (rest : List Json) :
    readPositions expected total position (f :: fields) r (u :: rest) =
      (f.read u r).bind fun r => readPositions expected total (position + 1) fields r rest := by
  rw [readPositions]
  cases f.read u r <;> rfl

/-- What is read from the fields in a list hinges on each of them. -/
theorem hinges_readPositions (expected : String) (total position : Nat) (r : ρ) (front back : List Json)
    (hfield : fields[front.length]? = some f) (h : ∀ r, Hinges (fun i => f.read (v i) r) q) :
    Hinges (fun i => readPositions expected total position fields r (front ++ v i :: back)) q := by
  induction front generalizing fields r position with
  | nil =>
    cases fields with
    | nil => cases hfield
    | cons g fields =>
      cases hfield
      simp only [List.nil_append, readPositions_cons]
      exact (h r).bind _
  | cons u front ih =>
    cases fields with
    | nil => cases hfield
    | cons g fields =>
      simp only [List.cons_append, readPositions_cons]
      cases g.read u r with
      | error e => exact .refused e q
      | ok r => exact ih _ r hfield

theorem Record.read_obj (kind : Record ρ) (ms : List (String × Json)) :
    kind.read (.obj ms) = (readMembers kind.fields [] kind.initial ms).bind fun read =>
      match kind.fields.find? (fun f => f.required && !read.1.contains f.name) with
      | some f => .error (.missingField f.name)
      | none => .ok read.2 := by
  rw [Record.read]
  cases readMembers kind.fields [] kind.initial ms <;> rfl

theorem readOrDefault_of_ne {u : Json} (h : u ≠ .null) {default : α} :
    readOrDefault default read u = read u := by
  cases u <;> first | rfl | exact absurd rfl h

theorem readOptional_of_ne {u : Json} (h : u ≠ .null) : readOptional read u = (read u).map some := by
  cases u <;> first | rfl | exact absurd rfl h

end

/-! ## Places in a document -/

/-- What is read from a document with an object in its hole hinges on what is read from the object. -/
def Through (whole : Reader α) (part : Reader β) (c : Context) : Prop :=
  Hinges (fun ms => whole (c.fill (.obj ms))) fun ms => part (.obj ms)

namespace Through

variable {read : Reader α} {part : Reader β} {c : Context} {kind : Record ρ} {f : Field ρ} {name : String}

theorem hole (part : Reader β) : Through part part .hole := Hinges.refl _

theorem orDefault (h : Through read part c) (default : α) : Through (readOrDefault default read) part c := by
  have heq : ∀ ms, readOrDefault default read (c.fill (.obj ms)) = read (c.fill (.obj ms)) :=
    fun ms => readOrDefault_of_ne (c.fill_ne_null Json.noConfusion)
  simpa only [Through, heq] using h

theorem optional (h : Through read part c) : Through (readOptional read) part c := by
  have heq : ∀ ms, readOptional read (c.fill (.obj ms)) = (read (c.fill (.obj ms))).map some :=
    fun ms => readOptional_of_ne (c.fill_ne_null Json.noConfusion)
  simpa only [Through, heq] using Hinges.map h some

theorem listItem (h : Through read part c) (front back : List Json) :
    Through (readList read) part (.item front c back) :=
  hinges_readEach h front back

/-- A field of a record. -/
theorem field {set : α → ρ → ρ} {i : Nat} {outer : Context} (h : Through read part c)
    (place : c.IsField name i outer) (hfind : kind.fields.find? (·.answersTo name) = some f)
    (hfield : kind.fields[i]? = some f) (hread : ∀ v r, f.read v r = (read v).map fun x => set x r) :
    Through kind.read part outer := by
  have hinges : ∀ r, Hinges (fun ms => f.read (c.fill (.obj ms)) r) fun ms => part (.obj ms) := by
    simp only [hread]
    exact fun r => Hinges.map h _
  cases place with
  | member front back =>
    simp only [Through, Context.fill, Record.read_obj]
    exact (hinges_readMembers hfind hinges _ _ front back).bind _
  | item front back hi =>
    simp only [Through, Context.fill, Record.read, List.length_append, List.length_cons]
    exact hinges_readPositions _ _ _ _ front back (hi ▸ hfield) hinges

end Through

end Decode

end Lookout
