import Lookout.Proofs.Decode.Nested
import Lookout.Snapshot.ChatList
import Lookout.Snapshot.ChatThread
import Lookout.Snapshot.Hosting
import Mathlib.Data.List.Nodup
import Mathlib.Data.List.Pairwise

/-!
# Null and missing members

The snapshots of the pages are made of eight kinds of records. In them most fields read null as the value
that they have when they are missing. The others are the texts, numbers and truth values that are not
optional: they refuse null, and the page with them.

* **`Record.Plain`** — records whose fields may be missing, have names of their own and set parts of their own.
* **`Record.Plain.read_asNull`** — such a record with null for a field is the record without it, if null is
  the starting value.
* **`Record.Plain.refused`**, **`Record.Plain.refused_twice`** — it is refused if the field refuses null, or if
  the field is there by another name as well.
* **`Part.through`** — the page depends on each of its parts by what is read from it.
* **`page_with_null`** — null for a field of any part of a page.
-/

namespace Lookout

namespace Decode

variable {ρ α β : Type} {kind : Record ρ} {f g : Field ρ} {name : String}

/-! ## Fields of their own -/

/-- The order in which two fields are read does not matter. -/
def Field.Apart (f g : Field ρ) : Prop :=
  ∀ v w r rf rg, f.read v r = .ok rf → g.read w r = .ok rg → ∃ r', f.read v rg = .ok r' ∧ g.read w rf = .ok r'

theorem Field.Apart.symm (h : f.Apart g) : g.Apart f := by
  intro w v r rg rf hg hf
  obtain ⟨r', h', h''⟩ := h v w r rf rg hf hg
  exact ⟨r', h'', h'⟩

/-- Fields that set different parts of a record. -/
theorem Field.apart_optional {n n' : String} {as as' : List String} {read : Reader α} {read' : Reader β}
    {set : α → ρ → ρ} {set' : β → ρ → ρ} (h : ∀ x y r, set x (set' y r) = set' y (set x r)) :
    (Field.optional n as read set).Apart (.optional n' as' read' set') := by
  intro v w r rf rg hf hg
  simp only [Field.optional] at hf hg ⊢
  cases hv : read v with
  | error e => rw [hv] at hf; cases hf
  | ok x =>
    cases hw : read' w with
    | error e => rw [hw] at hg; cases hg
    | ok y =>
      rw [hv] at hf
      rw [hw] at hg
      cases hf
      cases hg
      exact ⟨set x (set' y r), rfl, congrArg Except.ok (h x y r).symm⟩

/-- All fields of a record may be missing, no two have a name in common, and each sets a part of its own. -/
structure Record.Plain (kind : Record ρ) : Prop where
  optional : ∀ f ∈ kind.fields, f.required = false
  distinct : (kind.fields.flatMap fun f => f.name :: f.aliases).Nodup
  apart : kind.fields.Pairwise Field.Apart

theorem Field.answersTo_iff : f.answersTo name = true ↔ name ∈ f.name :: f.aliases := by
  rw [Field.answersTo, Bool.or_eq_true, beq_iff_eq, List.contains_iff_mem, List.mem_cons, eq_comm (a := f.name)]

namespace Record.Plain

variable (plain : kind.Plain)
include plain

/-- The field of a name. -/
theorem find_eq (hf : f ∈ kind.fields) (hname : f.answersTo name = true) :
    kind.fields.find? (·.answersTo name) = some f := by
  have distinct := plain.distinct
  revert hf distinct
  induction kind.fields with
  | nil => exact fun hf => absurd hf List.not_mem_nil
  | cons h fields ih =>
    intro hf distinct
    obtain ⟨-, hrest, hdisjoint⟩ := List.nodup_append.1 (List.flatMap_cons ▸ distinct)
    rcases List.mem_cons.1 hf with rfl | hf
    · exact List.find?_cons_of_pos hname
    · have hother : ¬h.answersTo name = true := fun hh =>
        hdisjoint name (Field.answersTo_iff.1 hh) name
          (List.mem_flatMap.2 ⟨f, hf, Field.answersTo_iff.1 hname⟩) rfl
      rw [List.find?_cons, Bool.eq_false_iff.2 hother]
      exact ih hf hrest

/-- A member that is not for a field but for another one. -/
theorem other_field (hf : f ∈ kind.fields) (hfind : kind.fields.find? (·.answersTo name) = some g)
    (hfname : f.answersTo name = false) : g ∈ kind.fields ∧ g.name ≠ f.name := by
  have hg : g ∈ kind.fields := List.mem_of_find?_eq_some hfind
  refine ⟨hg, fun heq => ?_⟩
  have hsame : kind.fields.find? (·.answersTo g.name) = some f :=
    plain.find_eq hf (Field.answersTo_iff.2 (heq ▸ List.mem_cons_self))
  rw [plain.find_eq hg (Field.answersTo_iff.2 List.mem_cons_self), Option.some.injEq] at hsame
  have hname := List.find?_some hfind
  rw [hsame, hfname] at hname
  exact Bool.false_ne_true hname

theorem apart_of_ne (hf : f ∈ kind.fields) (hg : g ∈ kind.fields) (hne : g.name ≠ f.name) : f.Apart g := by
  have : Std.Symm (Field.Apart : Field ρ → Field ρ → Prop) := ⟨fun _ _ => Field.Apart.symm⟩
  exact plain.apart.forall hf hg fun heq => hne (heq ▸ rfl)

theorem read_obj (ms : List (String × Json)) :
    kind.read (.obj ms) = (readMembers kind.fields [] kind.initial ms).map Prod.snd := by
  rw [Record.read_obj]
  cases readMembers kind.fields [] kind.initial ms with
  | error e => rfl
  | ok read =>
    have hnone : kind.fields.find? (fun f => f.required && !read.1.contains f.name) = none :=
      List.find?_eq_none.2 fun f hf => by rw [plain.optional f hf]; exact Bool.false_ne_true
    simp only [Except.bind, hnone]
    rfl

end Record.Plain

/-! ## Null for a field -/

/-- The members of an object without those for a field. -/
def Field.without (f : Field ρ) (ms : List (String × Json)) : List (String × Json) :=
  ms.filter fun m => !f.answersTo m.1

/-- The members of an object with null for a field, by one of its names. -/
def Field.asNull (f : Field ρ) (name : String) (ms : List (String × Json)) : List (String × Json) :=
  Json.insertField name .null (f.without ms)

theorem Field.answersTo_without {ms : List (String × Json)} :
    ∀ m ∈ f.without ms, f.answersTo m.1 = false := by
  intro m hm
  have hkept := (List.mem_filter.1 hm).2
  rwa [Bool.not_eq_true'] at hkept

/-- A new member is put between the others. -/
theorem exists_insertField {v : Json} {ms : List (String × Json)} (h : ∀ m ∈ ms, m.1 ≠ name) :
    ∃ front back, ms = front ++ back ∧ Json.insertField name v ms = front ++ (name, v) :: back := by
  induction ms with
  | nil => exact ⟨[], [], rfl, rfl⟩
  | cons m ms ih =>
    obtain ⟨other, u⟩ := m
    have hne : name ≠ other := fun heq => h _ List.mem_cons_self heq.symm
    rw [Json.insertField]
    by_cases hlt : name < other
    · rw [if_pos hlt]
      exact ⟨[], (other, u) :: ms, rfl, rfl⟩
    · obtain ⟨front, back, heq, hins⟩ := ih fun m hm => h m (List.mem_cons_of_mem _ hm)
      rw [if_neg hlt, if_neg hne, hins, heq]
      exact ⟨(other, u) :: front, back, rfl, rfl⟩

/-- A new member takes the place of at most those of its name. -/
theorem countP_insertField {p : String × Json → Bool} {v : Json} (hp : p (name, v) = true)
    (ms : List (String × Json)) :
    (ms.filter (·.1 ≠ name)).countP p + 1 ≤ (Json.insertField name v ms).countP p := by
  induction ms with
  | nil => simp [Json.insertField, hp]
  | cons m ms ih =>
    obtain ⟨other, u⟩ := m
    have hkept : (ms.filter (·.1 ≠ name)).countP p ≤ ms.countP p := List.filter_sublist.countP_le
    rw [Json.insertField]
    split
    · rw [List.countP_cons_of_pos hp]
      exact Nat.succ_le_succ List.filter_sublist.countP_le
    · split
      · next hsame =>
        rw [List.countP_cons_of_pos hp, List.filter_cons_of_neg (by simp [hsame])]
        exact Nat.succ_le_succ hkept
      · next hother =>
        rw [List.filter_cons_of_pos (by simpa using Ne.symm hother), List.countP_cons, List.countP_cons]
        omega

theorem Field.exists_asNull (f : Field ρ) (hname : f.answersTo name = true) (ms : List (String × Json)) :
    ∃ front back, f.without ms = front ++ back ∧ f.asNull name ms = front ++ (name, .null) :: back := by
  refine exists_insertField fun m hm hmname => ?_
  have hother := f.answersTo_without m hm
  rw [hmname, hname] at hother
  exact Bool.false_ne_true hother.symm

namespace Record.Plain

variable (plain : kind.Plain) (hf : f ∈ kind.fields)
include plain hf

/-- Whether a field has been read does not matter to members that are not for it. -/
theorem readMembers_seen {seen seen' : List String} {ms : List (String × Json)}
    (agree : ∀ n, n ≠ f.name → seen.contains n = seen'.contains n)
    (others : ∀ m ∈ ms, f.answersTo m.1 = false) (r : ρ) :
    (readMembers kind.fields seen r ms).map Prod.snd = (readMembers kind.fields seen' r ms).map Prod.snd := by
  induction ms generalizing seen seen' r with
  | nil => rfl
  | cons m ms ih =>
    obtain ⟨other, u⟩ := m
    have hrest := fun m hm => others m (List.mem_cons_of_mem _ hm)
    cases hfind : kind.fields.find? (·.answersTo other) with
    | none =>
      simp only [readMembers, hfind]
      exact ih agree hrest r
    | some g =>
      obtain ⟨-, hne⟩ := plain.other_field hf hfind (others _ List.mem_cons_self)
      rw [readMembers_cons hfind, readMembers_cons hfind, agree g.name hne]
      split
      · rfl
      · cases g.read u r with
        | error e => rfl
        | ok r =>
          refine ih (fun n hn => ?_) hrest r
          rw [List.contains_cons, List.contains_cons, agree n hn]

/-- Null for a field does not matter if it is what the record holds there. -/
theorem readMembers_null (hname : f.answersTo name = true) {front back : List (String × Json)}
    (hfront : ∀ m ∈ front, f.answersTo m.1 = false) (hback : ∀ m ∈ back, f.answersTo m.1 = false)
    {seen : List String} {r : ρ} (unseen : seen.contains f.name = false) (hnull : f.read .null r = .ok r) :
    (readMembers kind.fields seen r (front ++ (name, .null) :: back)).map Prod.snd =
      (readMembers kind.fields seen r (front ++ back)).map Prod.snd := by
  induction front generalizing seen r with
  | nil =>
    rw [List.nil_append, List.nil_append, readMembers_cons (plain.find_eq hf hname), unseen, hnull]
    refine plain.readMembers_seen hf (fun n hn => ?_) hback r
    rw [List.contains_cons, beq_false_of_ne hn, Bool.false_or]
  | cons m front ih =>
    obtain ⟨other, u⟩ := m
    have hrest := fun m hm => hfront m (List.mem_cons_of_mem _ hm)
    rw [List.cons_append, List.cons_append]
    cases hfind : kind.fields.find? (·.answersTo other) with
    | none =>
      simp only [readMembers, hfind]
      exact ih hrest unseen hnull
    | some g =>
      obtain ⟨hg, hne⟩ := plain.other_field hf hfind (hfront _ List.mem_cons_self)
      rw [readMembers_cons hfind, readMembers_cons hfind]
      split
      · rfl
      · cases hread : g.read u r with
        | error e => rfl
        | ok r' =>
          -- The other field has left the part of this one as it was.
          obtain ⟨r'', hnull', hread'⟩ := plain.apart_of_ne hf hg hne .null u r r r' hnull hread
          rw [hread] at hread'
          cases hread'
          refine ih hrest ?_ hnull'
          rw [List.contains_cons, beq_false_of_ne hne.symm, unseen, Bool.false_or]

/-- A record with null for a field is the one without it, if null is what the record starts with. -/
theorem read_asNull (hname : f.answersTo name = true) (hnull : f.read .null kind.initial = .ok kind.initial)
    (ms : List (String × Json)) : kind.read (.obj (f.asNull name ms)) = kind.read (.obj (f.without ms)) := by
  have hothers : ∀ m ∈ f.without ms, f.answersTo m.1 = false := f.answersTo_without
  obtain ⟨front, back, heq, hins⟩ := f.exists_asNull hname ms
  rw [plain.read_obj, plain.read_obj, hins, heq]
  rw [heq] at hothers
  exact plain.readMembers_null hf hname (fun m hm => hothers m (List.mem_append_left _ hm))
    (fun m hm => hothers m (List.mem_append_right _ hm)) rfl hnull

/-- A record with null for a field is refused, if the field refuses null. -/
theorem refused (hname : f.answersTo name = true) (hnull : ∀ r, ∃ e, f.read .null r = .error e)
    (ms : List (String × Json)) : ∃ e, kind.read (.obj (f.asNull name ms)) = .error e := by
  obtain ⟨front, back, -, hins⟩ := f.exists_asNull hname ms
  rw [plain.read_obj, hins]
  -- All failures of the field hinge on the one in the starting record.
  have hinges : ∀ r, Hinges (fun _ : Unit => f.read .null r) fun _ => f.read .null kind.initial :=
    fun r => ⟨fun _ => f.read .null r, fun _ => hnull r, fun _ => rfl⟩
  have hmembers := hinges_readMembers (v := fun _ => .null) (plain.find_eq hf hname) hinges [] kind.initial
    front back
  exact (hmembers.map Prod.snd).error (i := ()) (hnull kind.initial)

/-- An object that spells a field more than once is refused. -/
theorem readMembers_twice {seen : List String} {ms : List (String × Json)}
    (twice : 2 ≤ ms.countP (fun m => f.answersTo m.1) + if seen.contains f.name then 1 else 0) (r : ρ) :
    ∃ e, readMembers kind.fields seen r ms = .error e := by
  induction ms generalizing seen r with
  | nil =>
    rw [List.countP_nil] at twice
    split at twice <;> omega
  | cons m ms ih =>
    obtain ⟨other, u⟩ := m
    rw [List.countP_cons] at twice
    by_cases hother : f.answersTo other = true
    · rw [readMembers_cons (plain.find_eq hf hother)]
      split
      · exact ⟨_, rfl⟩
      · next hunseen =>
        cases f.read u r with
        | error e => exact ⟨e, rfl⟩
        | ok r =>
          refine ih ?_ r
          rw [if_pos hother, if_neg hunseen] at twice
          rw [List.contains_cons, beq_self_eq_true, Bool.true_or, if_pos rfl]
          omega
    · rw [if_neg hother] at twice
      cases hfind : kind.fields.find? (·.answersTo other) with
      | none =>
        simp only [readMembers, hfind]
        exact ih twice r
      | some g =>
        obtain ⟨-, hne⟩ := plain.other_field hf hfind (Bool.eq_false_iff.2 hother)
        rw [readMembers_cons hfind]
        split
        · exact ⟨_, rfl⟩
        · cases g.read u r with
          | error e => exact ⟨e, rfl⟩
          | ok r =>
            refine ih ?_ r
            rwa [List.contains_cons, beq_false_of_ne hne.symm, Bool.false_or]

/-- A member for a field is refused beside another one for it. -/
theorem refused_twice (hname : f.answersTo name = true) (v : Json) {m : String × Json}
    {ms : List (String × Json)} (hm : m ∈ ms) (hne : m.1 ≠ name) (hanswers : f.answersTo m.1 = true) :
    ∃ e, kind.read (.obj (Json.insertField name v ms)) = .error e := by
  have hone : 0 < (ms.filter (·.1 ≠ name)).countP fun m => f.answersTo m.1 :=
    List.countP_pos_iff.2 ⟨m, List.mem_filter.2 ⟨hm, decide_eq_true hne⟩, hanswers⟩
  have htwice : 2 ≤ (Json.insertField name v ms).countP fun m => f.answersTo m.1 :=
    Nat.le_trans (Nat.succ_le_succ hone) (countP_insertField (p := fun m => f.answersTo m.1) hname ms)
  obtain ⟨e, he⟩ := plain.readMembers_twice hf (Nat.le_add_right_of_le htwice) kind.initial
  exact ⟨e, by rw [plain.read_obj, he]; rfl⟩

end Record.Plain

/-! ## The records of the pages -/

open Snapshot
open Json (Context)

/-- The records that a page is decoded into. -/
inductive Model
  | hosting
  | stats
  | server
  | project
  | chatList
  | chat
  | chatThread
  | message

namespace Model

/-- The values of a kind of record. -/
abbrev Value : Model → Type
  | .hosting => Hosting
  | .stats => HostingStats
  | .server => Server
  | .project => Project
  | .chatList => ChatList
  | .chat => Chat
  | .chatThread => ChatThread
  | .message => Message

/-- How a kind of record is read. -/
def record : (m : Model) → Record m.Value
  | .hosting => Hosting.record
  | .stats => HostingStats.record
  | .server => Server.record
  | .project => Project.record
  | .chatList => ChatList.record
  | .chat => Chat.record
  | .chatThread => ChatThread.record
  | .message => Message.record

/-- The names of the fields that refuse null. -/
def strict : Model → List String
  | .stats => ["total_servers", "active_servers", "monthly_cost"]
  | .server | .project => ["name"]
  | .chat => ["title", "unread_count"]
  | .message => ["text", "outgoing"]
  | .hosting | .chatList | .chatThread => []

/-- Any two fields of a record set different parts of it. -/
theorem apart (m : Model) : m.record.fields.Pairwise Field.Apart := by
  cases m <;>
    simp only [record, Hosting.record, HostingStats.record, Server.record, Project.record, ChatList.record,
      Chat.record, ChatThread.record, Message.record, List.pairwise_cons, List.forall_mem_cons] <;>
    and_intros
  all_goals first
    | exact Field.apart_optional fun _ _ _ => rfl
    | exact fun _ hmem => absurd hmem List.not_mem_nil
    | exact .nil

theorem plain (m : Model) : m.record.Plain where
  optional := by cases m <;> decide
  distinct := by cases m <;> decide
  apart := m.apart

/-- Null in a strict field is refused, and in any other one it is what the record starts with. -/
theorem read_null (m : Model) : ∀ f ∈ m.record.fields,
    (f.name ∈ m.strict → ∀ r, ∃ e, f.read .null r = .error e) ∧
      (f.name ∉ m.strict → f.read .null m.record.initial = .ok m.record.initial) := by
  cases m <;>
    simp only [record, Hosting.record, HostingStats.record, Server.record, Project.record, ChatList.record,
      Chat.record, ChatThread.record, Message.record, List.forall_mem_cons] <;>
    and_intros
  all_goals first
    | exact fun _ hmem => absurd hmem List.not_mem_nil
    | exact fun _ => rfl
    | exact fun _ _ => ⟨_, rfl⟩
    -- The name of the field is on the other side.
    | exact fun hname => absurd hname (by decide)

end Model

/-- The parts of a page with the places in a document where they stand. -/
inductive Part : Model → Context → Model → Prop
  | whole (page : Model) : Part page .hole page
  | stats {c : Context} (place : Context.hole.IsField "stats" 0 c) : Part .hosting c .stats
  | server {c : Context} (before after : List Json)
    (place : (Context.item before .hole after).IsField "servers" 1 c) : Part .hosting c .server
  | project {c : Context} (before after : List Json)
    (place : (Context.item before .hole after).IsField "projects" 2 c) : Part .hosting c .project
  | chat {c : Context} (before after : List Json)
    (place : (Context.item before .hole after).IsField "chats" 0 c) : Part .chatList c .chat
  | message {c : Context} (before after : List Json)
    (place : (Context.item before .hole after).IsField "messages" 0 c) : Part .chatThread c .message

/-- What is read from a part of a page decides on the page. -/
theorem Part.through {page part : Model} {c : Context} (h : Part page c part) :
    Through page.record.read part.record.read c := by
  cases h with
  | whole => exact .hole _
  | stats place => exact ((Through.hole _).orDefault _).field place rfl rfl fun _ _ => rfl
  | server before after place =>
    exact (((Through.hole _).listItem before after).orDefault _).field place rfl rfl fun _ _ => rfl
  | project before after place =>
    exact ((Through.hole _).listItem before after).optional.field place rfl rfl fun _ _ => rfl
  | chat before after place =>
    exact (((Through.hole _).listItem before after).orDefault _).field place rfl rfl fun _ _ => rfl
  | message before after place =>
    exact (((Through.hole _).listItem before after).orDefault _).field place rfl rfl fun _ _ => rfl

/-- Null for a field of any part of a page: where the field is not strict, the page is the one without the
field, and where it is strict the page is refused. Beside a member for the field by another name, null is
refused in any case. -/
theorem page_with_null {page part : Model} {c : Context} (h : Part page c part) {f : Field part.Value}
    (hf : f ∈ part.record.fields) {name : String} (hname : f.answersTo name = true)
    (ms : List (String × Json)) :
    (f.name ∉ part.strict → page.record.read (c.fill (.obj (f.asNull name ms))) =
      page.record.read (c.fill (.obj (f.without ms)))) ∧
    (f.name ∈ part.strict → ∃ e, page.record.read (c.fill (.obj (f.asNull name ms))) = .error e) ∧
    ∀ m ∈ ms, m.1 ≠ name → f.answersTo m.1 = true →
      ∃ e, page.record.read (c.fill (.obj (Json.insertField name .null ms))) = .error e := by
  obtain ⟨hstrict, hlenient⟩ := part.read_null f hf
  refine ⟨fun hname' => ?_, fun hname' => ?_, fun m hm hne hanswers => ?_⟩
  · exact h.through.congr (part.plain.read_asNull hf hname (hlenient hname') ms)
  · exact h.through.error (part.plain.refused hf hname (hstrict hname') ms)
  · exact h.through.error (part.plain.refused_twice hf hname .null hm hne hanswers)

/-- Null for the project of a server, by its other name, is no project. -/
theorem server_with_null_project :
    let f : Field Server := .optional "project" ["projectName"] (readOptional readText) fun p s =>
      { s with project := p }
    let c : Context := .member [] "servers" (.item [] .hole []) []
    let ms := [("id", Json.str "db-1"), ("project", .str "crm")]
    (Part .hosting c .server ∧ f ∈ Server.record.fields ∧ f.answersTo "projectName" = true) ∧
      Hosting.record.read (c.fill (.obj (f.asNull "projectName" ms))) =
        Hosting.record.read (c.fill (.obj (f.without ms))) := by
  intro f c ms
  have hpart : Part .hosting c .server := .server [] [] (.member [] [])
  have hf : f ∈ Server.record.fields := by simp [Server.record, f]
  have hname : f.answersTo "projectName" = true := by decide
  exact ⟨⟨hpart, hf, hname⟩, (page_with_null hpart hf hname ms).1 (by decide)⟩

/-- Null for the name of a server, which is read as empty if it is missing. -/
theorem server_with_null_name :
    let f : Field Server := .optional "name" [] readText fun n s => { s with name := n }
    let c : Context := .member [] "servers" (.item [] .hole []) []
    let ms := [("id", Json.str "1")]
    f ∈ Server.record.fields ∧
      Hosting.read (c.fill (.obj (f.asNull "name" ms))) = .error (.wrongType .empty "a string") ∧
      Hosting.read (c.fill (.obj (f.without ms))) =
        .ok ⟨HostingStats.record.initial, [{ Server.record.initial with id := "1" }], none⟩ := by
  refine ⟨?_, ?_, ?_⟩
  · simp [Server.record]
  · decide +kernel
  · decide +kernel

end Decode

end Lookout
