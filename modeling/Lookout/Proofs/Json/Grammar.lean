import Lookout.Proofs.Json.Numeral
import Lookout.Proofs.Json.Quotes

/-!
# The grammar of documents

The texts that are documents, as a relation between a text and the document that it writes, independent
of the reader. The reader takes exactly these texts. A document that is only passed over may hold any
written number and halves of surrogate pairs without their partners.

* **`written_of_readValue`** — what is read is the document that the text writes.
* **`readValue_written`** — a text that writes a document is read, up to the depth that the reader allows.
-/

namespace Lookout.Json

/-- The parts of a list or an object up to and with the closing character: each is followed by blanks and
by a comma or by that character. -/
inductive Closed {α : Type} (close : Char) (IsPart : List Char → α → Prop) :
    List Char → List α → Prop
  | last {t b : List Char} {x : α} (part : IsPart t x) (blank : Blank b) :
      Closed close IsPart (t ++ (b ++ [close])) [x]
  | more {t b cs : List Char} {x : α} {xs : List α} (part : IsPart t x) (blank : Blank b)
      (rest : Closed close IsPart cs xs) : Closed close IsPart (t ++ (b ++ ',' :: cs)) (x :: xs)

/-- An item of a list: a text behind blanks. -/
inductive Item : List Char → List Char → Prop
  | mk {a t : List Char} (blank : Blank a) : Item (a ++ t) t

/-- The name of a member with its colon. -/
inductive Label (skipping : Bool) : List Char → String → Prop
  | mk {a b cs s : List Char} (before : Blank a) (quoted : Quoted skipping cs s) (behind : Blank b) :
      Label skipping (a ++ '"' :: (cs ++ (b ++ [':']))) (String.ofList s)

/-- A member of an object: a name and the text of its value. -/
inductive Member (skipping : Bool) : List Char → String × List Char → Prop
  | mk {l a t : List Char} {name : String} (label : Label skipping l name) (blank : Blank a) :
      Member skipping (l ++ (a ++ t)) (name, t)

/-- The texts that are documents of which lists and objects nest at most to the given depth, with the
documents that they write. Of a document that is passed over only the form matters. -/
inductive Writes (skipping : Bool) : Nat → List Char → Json → Prop
  | null {d : Nat} : Writes skipping d ['n', 'u', 'l', 'l'] .null
  | yes {d : Nat} : Writes skipping d ['t', 'r', 'u', 'e'] (.bool true)
  | no {d : Nat} : Writes skipping d ['f', 'a', 'l', 's', 'e'] (.bool false)
  | number {d : Nat} {t : List Char} {n : Number} (looks : skipping = false) (numeral : Numeral t)
      (value : readNumber t = some (n, [])) : Writes skipping d t (.num n)
  | numeral {d : Nat} {t : List Char} (skips : skipping = true) (numeral : Numeral t) :
      Writes skipping d t .null
  | string {d : Nat} {cs s : List Char} (quoted : Quoted skipping cs s) :
      Writes skipping d ('"' :: cs) (.str (String.ofList s))
  | noItems {d : Nat} {a : List Char} (blank : Blank a) :
      Writes skipping (d + 1) ('[' :: (a ++ [']'])) (.arr [])
  | items {d : Nat} {cs : List Char} {parts : List (List Char × Json)}
      (closed : Closed ']' Item cs (parts.map (·.1))) (values : ∀ p ∈ parts, Writes skipping d p.1 p.2) :
      Writes skipping (d + 1) ('[' :: cs) (.arr (parts.map (·.2)))
  | noMembers {d : Nat} {a : List Char} (blank : Blank a) :
      Writes skipping (d + 1) ('\x7b' :: (a ++ ['\x7d'])) (.obj [])
  | members {d : Nat} {cs : List Char} {parts : List (String × List Char × Json)}
      (closed : Closed '\x7d' (Member skipping) cs (parts.map fun p => (p.1, p.2.1)))
      (values : ∀ p ∈ parts, Writes skipping d p.2.1 p.2.2) :
      Writes skipping (d + 1) ('\x7b' :: cs) (.obj (sortFields (parts.map fun p => (p.1, p.2.2))))

/-- The items of a list up to and with its closing bracket, with the documents that they write. -/
inductive WritesItems (skipping : Bool) (d : Nat) : List Char → List Json → Prop
  | mk {cs : List Char} {parts : List (List Char × Json)} (closed : Closed ']' Item cs (parts.map (·.1)))
      (values : ∀ p ∈ parts, Writes skipping d p.1 p.2) : WritesItems skipping d cs (parts.map (·.2))

/-- The members of an object up to and with its closing brace, with their names and the documents that
they write. -/
inductive WritesFields (skipping : Bool) (d : Nat) : List Char → List (String × Json) → Prop
  | mk {cs : List Char} {parts : List (String × List Char × Json)}
      (closed : Closed '\x7d' (Member skipping) cs (parts.map fun p => (p.1, p.2.1)))
      (values : ∀ p ∈ parts, Writes skipping d p.2.1 p.2.2) :
      WritesFields skipping d cs (parts.map fun p => (p.1, p.2.2))

section
variable {skipping : Bool} {d : Nat} {a t b l cs : List Char} {name : String} {v : Json}

theorem WritesItems.writes {vs : List Json} (h : WritesItems skipping d cs vs) :
    Writes skipping (d + 1) ('[' :: cs) (.arr vs) := by
  obtain ⟨closed, values⟩ := h
  exact .items closed values

theorem WritesItems.last (ha : Blank a) (h : Writes skipping d t v) (hb : Blank b) :
    WritesItems skipping d ((a ++ t) ++ (b ++ [']'])) [v] :=
  @WritesItems.mk skipping d _ [(t, v)] (.last ⟨ha⟩ hb) (by simpa using h)

theorem WritesItems.more {vs : List Json} (h : WritesItems skipping d cs vs) (ha : Blank a)
    (hv : Writes skipping d t v) (hb : Blank b) :
    WritesItems skipping d ((a ++ t) ++ (b ++ ',' :: cs)) (v :: vs) := by
  obtain ⟨closed, values⟩ := h
  exact @WritesItems.mk skipping d _ ((t, v) :: _) (.more ⟨ha⟩ hb closed)
    (List.forall_mem_cons.2 ⟨hv, values⟩)

/-- The first of the items and those behind it. -/
theorem WritesItems.split {vs : List Json} (h : WritesItems skipping d cs vs) :
    (∃ a t b v, Blank a ∧ Writes skipping d t v ∧ Blank b ∧ cs = (a ++ t) ++ (b ++ [']']) ∧ vs = [v]) ∨
      ∃ a t b cs' v vs', Blank a ∧ Writes skipping d t v ∧ Blank b ∧ WritesItems skipping d cs' vs' ∧
        cs = (a ++ t) ++ (b ++ ',' :: cs') ∧ vs = v :: vs' := by
  obtain @⟨parts, closed, values⟩ := h
  generalize hts : parts.map (·.1) = ts at closed
  cases closed with
  | last part blank =>
    obtain ⟨p, rfl, rfl⟩ := List.map_eq_singleton_iff.1 hts
    obtain ⟨ha⟩ := part
    exact .inl ⟨_, _, _, p.2, ha, values p (by simp), blank, rfl, rfl⟩
  | more part blank rest =>
    obtain ⟨p, parts, rfl, rfl, rfl⟩ := List.map_eq_cons_iff.1 hts
    obtain ⟨ha⟩ := part
    obtain ⟨hp, hparts⟩ := List.forall_mem_cons.1 values
    exact .inr ⟨_, _, _, _, p.2, _, ha, hp, blank, ⟨rest, hparts⟩, rfl, rfl⟩

theorem WritesFields.writes {fs : List (String × Json)} (h : WritesFields skipping d cs fs) :
    Writes skipping (d + 1) ('\x7b' :: cs) (.obj (sortFields fs)) := by
  obtain ⟨closed, values⟩ := h
  exact .members closed values

theorem WritesFields.last (hl : Label skipping l name) (ha : Blank a) (h : Writes skipping d t v)
    (hb : Blank b) : WritesFields skipping d ((l ++ (a ++ t)) ++ (b ++ ['\x7d'])) [(name, v)] :=
  @WritesFields.mk skipping d _ [(name, t, v)] (.last ⟨hl, ha⟩ hb) (by simpa using h)

theorem WritesFields.more {fs : List (String × Json)} (h : WritesFields skipping d cs fs)
    (hl : Label skipping l name) (ha : Blank a) (hv : Writes skipping d t v) (hb : Blank b) :
    WritesFields skipping d ((l ++ (a ++ t)) ++ (b ++ ',' :: cs)) ((name, v) :: fs) := by
  obtain ⟨closed, values⟩ := h
  exact @WritesFields.mk skipping d _ ((name, t, v) :: _) (.more ⟨hl, ha⟩ hb closed)
    (List.forall_mem_cons.2 ⟨hv, values⟩)

/-- The first of the members and those behind it. -/
theorem WritesFields.split {fs : List (String × Json)} (h : WritesFields skipping d cs fs) :
    (∃ l name a t b v, Label skipping l name ∧ Blank a ∧ Writes skipping d t v ∧ Blank b ∧
        cs = (l ++ (a ++ t)) ++ (b ++ ['\x7d']) ∧ fs = [(name, v)]) ∨
      ∃ l name a t b cs' v fs', Label skipping l name ∧ Blank a ∧ Writes skipping d t v ∧ Blank b ∧
        WritesFields skipping d cs' fs' ∧ cs = (l ++ (a ++ t)) ++ (b ++ ',' :: cs') ∧
        fs = (name, v) :: fs' := by
  obtain @⟨parts, closed, values⟩ := h
  generalize hms : (parts.map fun p => (p.1, p.2.1)) = ms at closed
  cases closed with
  | last part blank =>
    obtain ⟨p, rfl, rfl⟩ := List.map_eq_singleton_iff.1 hms
    obtain ⟨hl, ha⟩ := part
    exact .inl ⟨_, _, _, _, _, p.2.2, hl, ha, values p (by simp), blank, rfl, rfl⟩
  | more part blank rest =>
    obtain ⟨p, parts, rfl, rfl, rfl⟩ := List.map_eq_cons_iff.1 hms
    obtain ⟨hl, ha⟩ := part
    obtain ⟨hp, hparts⟩ := List.forall_mem_cons.1 values
    exact .inr ⟨_, _, _, _, _, _, p.2.2, _, hl, ha, hp, blank, ⟨rest, hparts⟩, rfl, rfl⟩

end

/-! ## The form alone

A text that writes a document can be passed over, whatever the document is. -/

theorem Writes.mono {skipping : Bool} {d : Nat} {t : List Char} {v : Json} (h : Writes skipping d t v)
    {d' : Nat} (hd : d ≤ d') : Writes skipping d' t v := by
  induction h generalizing d' with
  | null => exact .null
  | yes => exact .yes
  | no => exact .no
  | number looks numeral value => exact .number looks numeral value
  | numeral skips numeral => exact .numeral skips numeral
  | string quoted => exact .string quoted
  | noItems blank =>
    obtain ⟨d', rfl⟩ := Nat.exists_eq_add_of_lt hd
    exact .noItems blank
  | items closed _ ih =>
    obtain ⟨d', rfl⟩ := Nat.exists_eq_add_of_lt hd
    exact .items closed fun p hp => ih p hp (Nat.le_add_right _ _)
  | noMembers blank =>
    obtain ⟨d', rfl⟩ := Nat.exists_eq_add_of_lt hd
    exact .noMembers blank
  | members closed _ ih =>
    obtain ⟨d', rfl⟩ := Nat.exists_eq_add_of_lt hd
    exact .members closed fun p hp => ih p hp (Nat.le_add_right _ _)

theorem Closed.imp {α : Type} {close : Char} {P Q : List Char → α → Prop} {cs : List Char} {xs : List α}
    (h : Closed close P cs xs) (himp : ∀ t x, P t x → Q t x) : Closed close Q cs xs := by
  induction h with
  | last part blank => exact .last (himp _ _ part) blank
  | more part blank _ ih => exact .more (himp _ _ part) blank ih

/-- Texts that write documents make a list that writes one. -/
theorem exists_writes_of_items {skipping : Bool} {d : Nat} {cs : List Char} {ts : List (List Char)}
    (closed : Closed ']' Item cs ts) (h : ∀ t ∈ ts, ∃ v, Writes skipping d t v) :
    ∃ v, Writes skipping (d + 1) ('[' :: cs) v := by
  have hparts : ∃ parts : List (List Char × Json), parts.map (·.1) = ts ∧
      ∀ p ∈ parts, Writes skipping d p.1 p.2 := by
    clear closed
    induction ts with
    | nil => exact ⟨[], rfl, by simp⟩
    | cons t ts ih =>
      obtain ⟨⟨v, hv⟩, hts⟩ := List.forall_mem_cons.1 h
      obtain ⟨parts, rfl, hparts⟩ := ih hts
      exact ⟨(t, v) :: parts, rfl, List.forall_mem_cons.2 ⟨hv, hparts⟩⟩
  obtain ⟨parts, rfl, hparts⟩ := hparts
  exact ⟨_, .items closed hparts⟩

/-- Members whose texts write documents make an object that writes one. -/
theorem exists_writes_of_members {skipping : Bool} {d : Nat} {cs : List Char}
    {ms : List (String × List Char)} (closed : Closed '\x7d' (Member skipping) cs ms)
    (h : ∀ m ∈ ms, ∃ v, Writes skipping d m.2 v) : ∃ v, Writes skipping (d + 1) ('\x7b' :: cs) v := by
  have hparts : ∃ parts : List (String × List Char × Json), (parts.map fun p => (p.1, p.2.1)) = ms ∧
      ∀ p ∈ parts, Writes skipping d p.2.1 p.2.2 := by
    clear closed
    induction ms with
    | nil => exact ⟨[], rfl, by simp⟩
    | cons m ms ih =>
      obtain ⟨⟨v, hv⟩, hms⟩ := List.forall_mem_cons.1 h
      obtain ⟨parts, rfl, hparts⟩ := ih hms
      exact ⟨(m.1, m.2, v) :: parts, rfl, List.forall_mem_cons.2 ⟨hv, hparts⟩⟩
  obtain ⟨parts, rfl, hparts⟩ := hparts
  exact ⟨_, .members closed hparts⟩

theorem Quoted.passed {cs s : List Char} (h : Quoted false cs s) : Quoted true cs s := by
  induction h with
  | close => exact .close
  | plain quote backslash control _ ih => exact .plain quote backslash control ih
  | letter isLetter _ ih => exact .letter isLetter ih
  | unit escaped whole _ ih => exact .unit escaped whole ih
  | pair escapedHigh isHigh escapedLow isLow _ ih => exact .pair escapedHigh isHigh escapedLow isLow ih
  | lone skips _ _ _ _ _ => cases skips

theorem Member.passed {cs : List Char} {m : String × List Char} (h : Member false cs m) :
    Member true cs m := by
  obtain ⟨⟨before, quoted, behind⟩, blank⟩ := h
  exact ⟨⟨before, quoted.passed, behind⟩, blank⟩

/-- A text that writes a document can be passed over. -/
theorem Writes.passed {d : Nat} {t : List Char} {v : Json} (h : Writes false d t v) :
    ∃ u, Writes true d t u := by
  induction h with
  | null => exact ⟨_, .null⟩
  | yes => exact ⟨_, .yes⟩
  | no => exact ⟨_, .no⟩
  | number _ numeral _ => exact ⟨_, .numeral rfl numeral⟩
  | numeral skips _ => cases skips
  | string quoted => exact ⟨_, .string quoted.passed⟩
  | noItems blank => exact ⟨_, .noItems blank⟩
  | noMembers blank => exact ⟨_, .noMembers blank⟩
  | items closed _ ih =>
    refine exists_writes_of_items closed fun t ht => ?_
    obtain ⟨p, hp, rfl⟩ := List.mem_map.1 ht
    exact ih p hp
  | members closed _ ih =>
    refine exists_writes_of_members (closed.imp fun _ _ => Member.passed) fun m hm => ?_
    obtain ⟨p, hp, rfl⟩ := List.mem_map.1 hm
    exact ih p hp

/-- A text that is a document with blanks around it, of any depth and with numbers of any size. -/
def Document (cs : List Char) : Prop :=
  ∃ a t b d v, Blank a ∧ Blank b ∧ Writes true d t v ∧ cs = a ++ (t ++ b)

/-! ## What is read -/

theorem eq_append_of_skipBlanks {cs rest : List Char} (h : skipBlanks cs = rest) :
    ∃ a, Blank a ∧ cs = a ++ rest := by
  obtain ⟨a, ha, heq⟩ := exists_blank cs
  exact ⟨a, ha, h ▸ heq⟩

theorem Item.blank_append {a cs t : List Char} (ha : Blank a) (h : Item cs t) : Item (a ++ cs) t := by
  obtain ⟨blank⟩ := h
  rw [← List.append_assoc]
  exact ⟨ha.append blank⟩

theorem Label.blank_append {skipping : Bool} {a l : List Char} {name : String} (ha : Blank a)
    (h : Label skipping l name) : Label skipping (a ++ l) name := by
  obtain ⟨before, quoted, behind⟩ := h
  rw [← List.append_assoc]
  exact ⟨ha.append before, quoted, behind⟩

theorem Member.blank_append {skipping : Bool} {a cs : List Char} {m : String × List Char} (ha : Blank a)
    (h : Member skipping cs m) : Member skipping (a ++ cs) m := by
  obtain ⟨label, blank⟩ := h
  rw [← List.append_assoc]
  exact ⟨label.blank_append ha, blank⟩

theorem Closed.blank_append {α : Type} {close : Char} {IsPart : List Char → α → Prop}
    (hpart : ∀ {a t : List Char} {x : α}, Blank a → IsPart t x → IsPart (a ++ t) x) {a cs : List Char}
    {xs : List α} (ha : Blank a) (h : Closed close IsPart cs xs) : Closed close IsPart (a ++ cs) xs := by
  cases h with
  | last part blank =>
    rw [← List.append_assoc]
    exact .last (hpart ha part) blank
  | more part blank rest =>
    rw [← List.append_assoc]
    exact .more (hpart ha part) blank rest

theorem label_of_readName {skipping : Bool} {cs rest : List Char} {name : String}
    (h : readName skipping cs = some (name, rest)) :
    ∃ l, cs = l ++ rest ∧ Label skipping l name := by
  unfold readName at h
  split at h
  · next behind hquote =>
    obtain ⟨a, ha, rfl⟩ := eq_append_of_skipBlanks hquote
    split at h
    · cases h
    · next s behind' hread =>
      obtain ⟨t, rfl, ht⟩ := written_of_readString hread
      split at h
      · next hcolon =>
        cases h
        obtain ⟨b, hb, rfl⟩ := eq_append_of_skipBlanks hcolon
        exact ⟨a ++ '"' :: (t ++ (b ++ [':'])), by simp, .mk ha ht hb⟩
      · cases h
  · cases h

theorem WritesItems.blank_append {skipping : Bool} {d : Nat} {a cs : List Char} {vs : List Json}
    (ha : Blank a) (h : WritesItems skipping d cs vs) : WritesItems skipping d (a ++ cs) vs := by
  obtain ⟨closed, values⟩ := h
  exact ⟨closed.blank_append Item.blank_append ha, values⟩

theorem WritesFields.blank_append {skipping : Bool} {d : Nat} {a cs : List Char}
    {fs : List (String × Json)} (ha : Blank a) (h : WritesFields skipping d cs fs) :
    WritesFields skipping d (a ++ cs) fs := by
  obtain ⟨closed, values⟩ := h
  exact ⟨closed.blank_append Member.blank_append ha, values⟩

/-- With a bound on the number of parts, the three readers read only what is written. -/
structure ReadsOnlyWritten (skipping : Bool) (fuel : Nat) : Prop where
  value : ∀ {d : Nat} {cs rest : List Char} {v : Json},
    readValue skipping fuel d cs = some (v, rest) →
      ∃ a t, cs = a ++ (t ++ rest) ∧ Blank a ∧ Writes skipping d t v
  items : ∀ {d : Nat} {cs rest : List Char} {vs : List Json},
    readItems skipping fuel d cs = some (vs, rest) →
      ∃ t, cs = t ++ rest ∧ WritesItems skipping d t vs
  fields : ∀ {d : Nat} {cs rest : List Char} {fs : List (String × Json)},
    readFields skipping fuel d cs = some (fs, rest) →
      ∃ t, cs = t ++ rest ∧ WritesFields skipping d t fs

theorem written_of_readItems_of {skipping : Bool} {fuel : Nat} (ih : ReadsOnlyWritten skipping fuel)
    {d : Nat} {cs rest : List Char} {vs : List Json}
    (h : readItems skipping (fuel + 1) d cs = some (vs, rest)) :
    ∃ t, cs = t ++ rest ∧ WritesItems skipping d t vs := by
  rw [readItems] at h
  split at h
  · cases h
  · next v behind hvalue =>
    obtain ⟨a, t, rfl, ha, ht⟩ := ih.value hvalue
    split at h
    · next hclose =>
      cases h
      obtain ⟨b, hb, rfl⟩ := eq_append_of_skipBlanks hclose
      exact ⟨(a ++ t) ++ (b ++ [']']), by simp, .last ha ht hb⟩
    · next hcomma =>
      obtain ⟨b, hb, rfl⟩ := eq_append_of_skipBlanks hcomma
      obtain ⟨p, hitems, heq⟩ := Option.map_eq_some_iff.1 h
      cases heq
      obtain ⟨u, rfl, hu⟩ := ih.items hitems
      exact ⟨(a ++ t) ++ (b ++ ',' :: u), by simp, hu.more ha ht hb⟩
    · cases h

theorem written_of_readFields_of {skipping : Bool} {fuel : Nat} (ih : ReadsOnlyWritten skipping fuel)
    {d : Nat} {cs rest : List Char} {fs : List (String × Json)}
    (h : readFields skipping (fuel + 1) d cs = some (fs, rest)) :
    ∃ t, cs = t ++ rest ∧ WritesFields skipping d t fs := by
  rw [readFields] at h
  split at h
  · cases h
  · next name behind hname =>
    obtain ⟨l, rfl, hl⟩ := label_of_readName hname
    split at h
    · cases h
    · next v behind' hvalue =>
      obtain ⟨a, t, rfl, ha, ht⟩ := ih.value hvalue
      split at h
      · next hclose =>
        cases h
        obtain ⟨b, hb, rfl⟩ := eq_append_of_skipBlanks hclose
        exact ⟨(l ++ (a ++ t)) ++ (b ++ ['\x7d']), by simp, .last hl ha ht hb⟩
      · next hcomma =>
        obtain ⟨b, hb, rfl⟩ := eq_append_of_skipBlanks hcomma
        obtain ⟨p, hfields, heq⟩ := Option.map_eq_some_iff.1 h
        cases heq
        obtain ⟨u, rfl, hu⟩ := ih.fields hfields
        exact ⟨(l ++ (a ++ t)) ++ (b ++ ',' :: u), by simp, hu.more hl ha ht hb⟩
      · cases h

theorem written_of_readValue_of {skipping : Bool} {fuel : Nat} (ih : ReadsOnlyWritten skipping fuel)
    {d : Nat} {cs rest : List Char} {v : Json}
    (h : readValue skipping (fuel + 1) d cs = some (v, rest)) :
    ∃ a t, cs = a ++ (t ++ rest) ∧ Blank a ∧ Writes skipping d t v := by
  rw [readValue] at h
  obtain ⟨a, ha, hcs⟩ := exists_blank cs
  suffices ∃ t, skipBlanks cs = t ++ rest ∧ Writes skipping d t v by
    obtain ⟨t, ht, hwrites⟩ := this
    exact ⟨a, t, ht ▸ hcs, ha, hwrites⟩
  generalize skipBlanks cs = cs' at h
  split at h
  · cases h
    exact ⟨_, rfl, .null⟩
  · cases h
    exact ⟨_, rfl, .yes⟩
  · cases h
    exact ⟨_, rfl, .no⟩
  · obtain ⟨p, hstring, heq⟩ := Option.map_eq_some_iff.1 h
    cases heq
    obtain ⟨t, rfl, ht⟩ := written_of_readString hstring
    exact ⟨'"' :: t, rfl, .string ht⟩
  · next behind =>
    cases d with
    | zero => cases h
    | succ d =>
      dsimp only at h
      obtain ⟨b, hb, hbehind⟩ := exists_blank behind
      generalize skipBlanks behind = behind' at h hbehind
      subst hbehind
      split at h
      · cases h
        exact ⟨'[' :: (b ++ [']']), by simp, .noItems hb⟩
      · obtain ⟨p, hitems, heq⟩ := Option.map_eq_some_iff.1 h
        cases heq
        obtain ⟨t, rfl, ht⟩ := ih.items hitems
        exact ⟨'[' :: (b ++ t), by simp, (ht.blank_append hb).writes⟩
  · next behind =>
    cases d with
    | zero => cases h
    | succ d =>
      dsimp only at h
      obtain ⟨b, hb, hbehind⟩ := exists_blank behind
      generalize skipBlanks behind = behind' at h hbehind
      subst hbehind
      split at h
      · cases h
        exact ⟨'\x7b' :: (b ++ ['\x7d']), by simp, .noMembers hb⟩
      · obtain ⟨p, hfields, heq⟩ := Option.map_eq_some_iff.1 h
        cases heq
        obtain ⟨t, rfl, ht⟩ := ih.fields hfields
        exact ⟨'\x7b' :: (b ++ t), by simp, (ht.blank_append hb).writes⟩
  · cases skipping with
    | true =>
      obtain ⟨r, hskip, heq⟩ := Option.map_eq_some_iff.1 h
      cases heq
      obtain ⟨t, rfl, ht⟩ := numeral_of_skipNumber hskip
      exact ⟨t, rfl, .numeral rfl ht⟩
    | false =>
      obtain ⟨⟨n, r⟩, hnumber, heq⟩ := Option.map_eq_some_iff.1 h
      cases heq
      obtain ⟨t, rfl, ht, hvalue⟩ := numeral_of_readNumber hnumber
      exact ⟨t, rfl, .number rfl ht hvalue⟩

theorem readsOnlyWritten (skipping : Bool) (fuel : Nat) : ReadsOnlyWritten skipping fuel := by
  induction fuel with
  | zero =>
    refine ⟨fun h => ?_, fun h => ?_, fun h => ?_⟩
    · simp [readValue] at h
    · simp [readItems] at h
    · simp [readFields] at h
  | succ fuel ih =>
    exact ⟨written_of_readValue_of ih, written_of_readItems_of ih, written_of_readFields_of ih⟩

/-- What is read is the document that the text writes. -/
theorem written_of_readValue {skipping : Bool} {fuel d : Nat} {cs rest : List Char} {v : Json}
    (h : readValue skipping fuel d cs = some (v, rest)) :
    ∃ a t, cs = a ++ (t ++ rest) ∧ Blank a ∧ Writes skipping d t v :=
  (readsOnlyWritten skipping fuel).value h

/-! ## What is written -/

theorem readName_label {skipping : Bool} {l : List Char} {name : String} (h : Label skipping l name)
    (rest : List Char) : readName skipping (l ++ rest) = some (name, rest) := by
  obtain @⟨a, b, cs, s, before, quoted, behind⟩ := h
  have hquote : skipBlanks (a ++ '"' :: (cs ++ (b ++ [':'])) ++ rest) =
      '"' :: (cs ++ (b ++ ':' :: rest)) := by
    rw [List.append_assoc, List.cons_append, skipBlanks_append_cons before (by decide)]
    simp
  rw [readName, hquote]
  simp only [readString_written quoted]
  simp only [skipBlanks_append_cons behind (by decide : isBlank ':' = false)]

theorem Numeral.starts {t : List Char} (h : Numeral t) : ∃ c u, t = c :: u ∧ StartsNumber c := by
  cases h with
  | plain magnitude =>
    obtain ⟨d, u, rfl, hd⟩ := magnitude.starts
    exact ⟨d, u, rfl, .inr hd⟩
  | minus magnitude => exact ⟨'-', _, rfl, .inl rfl⟩

/-- A document starts with a character that is neither a blank nor a closing bracket. -/
theorem Writes.starts {skipping : Bool} {d : Nat} {t : List Char} {v : Json}
    (h : Writes skipping d t v) : ∃ c u, t = c :: u ∧ isBlank c = false ∧ c ≠ ']' := by
  have hnumeral : Numeral t → ∃ c u, t = c :: u ∧ isBlank c = false ∧ c ≠ ']' := by
    intro numeral
    obtain ⟨c, u, rfl, hc⟩ := numeral.starts
    exact ⟨c, u, rfl, hc.isBlank, hc.ne (by decide) (by decide)⟩
  cases h with
  | number _ numeral _ => exact hnumeral numeral
  | numeral _ numeral => exact hnumeral numeral
  | null | yes | no | string | noItems | items | noMembers | members =>
    exact ⟨_, _, rfl, by decide, by decide⟩

theorem readValue_blank_append (skipping : Bool) (fuel d : Nat) {a : List Char} (h : Blank a)
    (cs : List Char) : readValue skipping fuel d (a ++ cs) = readValue skipping fuel d cs := by
  cases fuel with
  | zero => simp only [readValue]
  | succ fuel => rw [readValue, readValue, skipBlanks_append h]

theorem readItems_skipBlanks (skipping : Bool) (fuel d : Nat) (cs : List Char) :
    readItems skipping fuel d (skipBlanks cs) = readItems skipping fuel d cs := by
  obtain ⟨a, ha, heq⟩ := exists_blank cs
  cases fuel with
  | zero => simp only [readItems]
  | succ fuel =>
    conv_rhs => rw [heq]
    rw [readItems, readItems, readValue_blank_append skipping fuel d ha]

theorem readFields_skipBlanks (skipping : Bool) (fuel d : Nat) (cs : List Char) :
    readFields skipping fuel d (skipBlanks cs) = readFields skipping fuel d cs := by
  obtain ⟨a, ha, heq⟩ := exists_blank cs
  have hname : readName skipping (skipBlanks cs) = readName skipping cs := by
    conv_rhs => rw [heq]
    rw [readName, readName, skipBlanks_append ha]
  cases fuel with
  | zero => simp only [readFields]
  | succ fuel => rw [readFields, readFields, hname]

theorem skipBlanks_item {skipping : Bool} {d : Nat} {a t : List Char} {v : Json} (ha : Blank a)
    (h : Writes skipping d t v) (rest : List Char) :
    ∃ c u, skipBlanks (a ++ (t ++ rest)) = c :: u ∧ c ≠ ']' := by
  obtain ⟨c, u, rfl, hblank, hc⟩ := h.starts
  exact ⟨c, u ++ rest, skipBlanks_append_cons ha hblank _, hc⟩

theorem WritesItems.starts {skipping : Bool} {d : Nat} {cs : List Char} {vs : List Json}
    (h : WritesItems skipping d cs vs) (rest : List Char) :
    ∃ c u, skipBlanks (cs ++ rest) = c :: u ∧ c ≠ ']' := by
  obtain ⟨a, t, b, v, ha, ht, -, rfl, -⟩ | ⟨a, t, b, cs', v, vs', ha, ht, -, -, rfl, -⟩ := h.split
  · simpa using skipBlanks_item ha ht (b ++ ']' :: rest)
  · simpa using skipBlanks_item ha ht (b ++ ',' :: (cs' ++ rest))

theorem Label.starts {skipping : Bool} {l : List Char} {name : String} (h : Label skipping l name)
    (rest : List Char) : ∃ u, skipBlanks (l ++ rest) = '"' :: u := by
  obtain ⟨before, quoted, behind⟩ := h
  rw [List.append_assoc, List.cons_append, skipBlanks_append_cons before (by decide)]
  exact ⟨_, rfl⟩

theorem WritesFields.starts {skipping : Bool} {d : Nat} {cs : List Char} {fs : List (String × Json)}
    (h : WritesFields skipping d cs fs) (rest : List Char) : ∃ u, skipBlanks (cs ++ rest) = '"' :: u := by
  obtain ⟨l, name, a, t, b, v, hl, -, -, -, rfl, -⟩ |
    ⟨l, name, a, t, b, cs', v, fs', hl, -, -, -, -, rfl, -⟩ := h.split
  · simpa using hl.starts (a ++ (t ++ (b ++ '\x7d' :: rest)))
  · simpa using hl.starts (a ++ (t ++ (b ++ ',' :: (cs' ++ rest))))

/-- With a bound on the number of parts, the three readers read what is written, up to the depth that
they are allowed to go. A text is never nested deeper than it is long. -/
structure ReadsWritten (skipping : Bool) (fuel : Nat) : Prop where
  value : ∀ {d : Nat} {t : List Char} {v : Json}, Writes skipping d t v → 2 * t.length ≤ fuel →
    ∀ {limit : Nat}, d ≤ limit ∨ t.length ≤ limit → ∀ {rest : List Char}, EndsNumber rest →
      readValue skipping fuel limit (t ++ rest) = some (v, rest)
  items : ∀ {d : Nat} {cs : List Char} {vs : List Json}, WritesItems skipping d cs vs →
    2 * cs.length < fuel → ∀ {limit : Nat}, d ≤ limit ∨ cs.length ≤ limit → ∀ (rest : List Char),
      readItems skipping fuel limit (cs ++ rest) = some (vs, rest)
  fields : ∀ {d : Nat} {cs : List Char} {fs : List (String × Json)}, WritesFields skipping d cs fs →
    2 * cs.length < fuel → ∀ {limit : Nat}, d ≤ limit ∨ cs.length ≤ limit → ∀ (rest : List Char),
      readFields skipping fuel limit (cs ++ rest) = some (fs, rest)

theorem readItems_written_of {skipping : Bool} {fuel : Nat} (ih : ReadsWritten skipping fuel) {d : Nat}
    {cs : List Char} {vs : List Json} (h : WritesItems skipping d cs vs)
    (hfuel : 2 * cs.length < fuel + 1) {limit : Nat} (hlimit : d ≤ limit ∨ cs.length ≤ limit)
    (rest : List Char) : readItems skipping (fuel + 1) limit (cs ++ rest) = some (vs, rest) := by
  obtain ⟨a, t, b, v, ha, ht, hb, rfl, rfl⟩ | ⟨a, t, b, cs', v, vs', ha, ht, hb, hcs', rfl, rfl⟩ :=
    h.split
  · simp only [List.length_append, List.length_singleton] at hfuel hlimit
    have hvalue := ih.value ht (by omega) (by omega : d ≤ limit ∨ t.length ≤ limit)
      (endsNumber_blank_append hb (endsNumber_bracket rest))
    rw [readItems, List.append_assoc, List.append_assoc, readValue_blank_append skipping fuel limit ha,
      List.append_assoc, List.singleton_append, hvalue]
    simp only [skipBlanks_append_cons hb (by decide : isBlank ']' = false)]
  · simp only [List.length_append, List.length_cons] at hfuel hlimit
    have hvalue := ih.value ht (by omega) (by omega : d ≤ limit ∨ t.length ≤ limit)
      (endsNumber_blank_append hb (endsNumber_comma (cs' ++ rest)))
    have hitems := ih.items hcs' (by omega) (by omega : d ≤ limit ∨ cs'.length ≤ limit) rest
    rw [readItems, List.append_assoc, List.append_assoc, readValue_blank_append skipping fuel limit ha,
      List.append_assoc, List.cons_append, hvalue]
    simp only [skipBlanks_append_cons hb (by decide : isBlank ',' = false), hitems, Option.map_some]

theorem readFields_written_of {skipping : Bool} {fuel : Nat} (ih : ReadsWritten skipping fuel) {d : Nat}
    {cs : List Char} {fs : List (String × Json)} (h : WritesFields skipping d cs fs)
    (hfuel : 2 * cs.length < fuel + 1) {limit : Nat} (hlimit : d ≤ limit ∨ cs.length ≤ limit)
    (rest : List Char) : readFields skipping (fuel + 1) limit (cs ++ rest) = some (fs, rest) := by
  obtain ⟨l, name, a, t, b, v, hl, ha, ht, hb, rfl, rfl⟩ |
    ⟨l, name, a, t, b, cs', v, fs', hl, ha, ht, hb, hcs', rfl, rfl⟩ := h.split
  · simp only [List.length_append, List.length_singleton] at hfuel hlimit
    have hvalue := ih.value ht (by omega) (by omega : d ≤ limit ∨ t.length ≤ limit)
      (endsNumber_blank_append hb (endsNumber_brace rest))
    rw [readFields, List.append_assoc, List.append_assoc, readName_label hl]
    dsimp only
    rw [List.append_assoc, readValue_blank_append skipping fuel limit ha,
      List.append_assoc, List.singleton_append, hvalue]
    simp only [skipBlanks_append_cons hb (by decide : isBlank '\x7d' = false)]
  · simp only [List.length_append, List.length_cons] at hfuel hlimit
    have hvalue := ih.value ht (by omega) (by omega : d ≤ limit ∨ t.length ≤ limit)
      (endsNumber_blank_append hb (endsNumber_comma (cs' ++ rest)))
    have hfields := ih.fields hcs' (by omega) (by omega : d ≤ limit ∨ cs'.length ≤ limit) rest
    rw [readFields, List.append_assoc, List.append_assoc, readName_label hl]
    dsimp only
    rw [List.append_assoc, readValue_blank_append skipping fuel limit ha,
      List.append_assoc, List.cons_append, hvalue]
    simp only [skipBlanks_append_cons hb (by decide : isBlank ',' = false), hfields, Option.map_some]

theorem readValue_items {skipping : Bool} {d : Nat} {cs : List Char} {vs : List Json}
    (h : WritesItems skipping d cs vs) (fuel limit : Nat) (rest : List Char) :
    readValue skipping (fuel + 1) (limit + 1) ('[' :: (cs ++ rest)) =
      (readItems skipping fuel limit (cs ++ rest)).map fun (items, r) => (.arr items, r) := by
  obtain ⟨c, u, heq, hc⟩ := h.starts rest
  rw [readValue, skipBlanks_cons (by decide), ← readItems_skipBlanks]
  simp only [heq]
  split
  · next heq => exact absurd (List.cons.inj heq).1 hc
  · rfl

theorem readValue_fields {skipping : Bool} {d : Nat} {cs : List Char} {fs : List (String × Json)}
    (h : WritesFields skipping d cs fs) (fuel limit : Nat) (rest : List Char) :
    readValue skipping (fuel + 1) (limit + 1) ('\x7b' :: (cs ++ rest)) =
      (readFields skipping fuel limit (cs ++ rest)).map fun (fields, r) =>
        (.obj (sortFields fields), r) := by
  obtain ⟨u, heq⟩ := h.starts rest
  rw [readValue, skipBlanks_cons (by decide), ← readFields_skipBlanks]
  simp only [heq]
  rfl

theorem readValue_written_of {skipping : Bool} {fuel : Nat} (ih : ReadsWritten skipping fuel) {d : Nat}
    {t : List Char} {v : Json} (h : Writes skipping d t v) (hfuel : 2 * t.length ≤ fuel + 1) {limit : Nat}
    (hlimit : d ≤ limit ∨ t.length ≤ limit) {rest : List Char} (hrest : EndsNumber rest) :
    readValue skipping (fuel + 1) limit (t ++ rest) = some (v, rest) := by
  cases h with
  | null => simp [readValue, skipBlanks_cons (by decide : isBlank 'n' = false)]
  | yes => simp [readValue, skipBlanks_cons (by decide : isBlank 't' = false)]
  | no => simp [readValue, skipBlanks_cons (by decide : isBlank 'f' = false)]
  | number looks _ value =>
    subst looks
    have hread := readNumber_append value hrest
    obtain ⟨c, u, heq, hc⟩ := readNumber_starts hread
    rw [heq, readValue_number false fuel limit hc, ← heq, hread]
    rfl
  | numeral skips numeral =>
    subst skips
    have hskip := skipNumber_numeral numeral hrest
    obtain ⟨c, u, rfl, hc⟩ := numeral.starts
    rw [List.cons_append, readValue_number true fuel limit hc, ← List.cons_append, hskip]
    rfl
  | string quoted =>
    rw [List.cons_append, readValue, skipBlanks_cons (by decide)]
    simp [readString_written quoted]
  | noItems blank =>
    obtain ⟨limit, rfl⟩ : ∃ l, limit = l + 1 := Nat.exists_eq_succ_of_ne_zero (by simp at hlimit; omega)
    rw [List.cons_append, List.append_assoc, readValue, skipBlanks_cons (by decide)]
    simp [skipBlanks_append_cons blank (by decide : isBlank ']' = false)]
  | noMembers blank =>
    obtain ⟨limit, rfl⟩ : ∃ l, limit = l + 1 := Nat.exists_eq_succ_of_ne_zero (by simp at hlimit; omega)
    rw [List.cons_append, List.append_assoc, readValue, skipBlanks_cons (by decide)]
    simp [skipBlanks_append_cons blank (by decide : isBlank '\x7d' = false)]
  | items closed values =>
    simp only [List.length_cons] at hfuel hlimit
    obtain ⟨limit, rfl⟩ : ∃ l, limit = l + 1 := Nat.exists_eq_succ_of_ne_zero (by omega)
    have hitems : WritesItems _ _ _ _ := .mk closed values
    rw [List.cons_append, readValue_items hitems, ih.items hitems (by omega) (by omega) rest]
    rfl
  | members closed values =>
    simp only [List.length_cons] at hfuel hlimit
    obtain ⟨limit, rfl⟩ : ∃ l, limit = l + 1 := Nat.exists_eq_succ_of_ne_zero (by omega)
    have hfields : WritesFields _ _ _ _ := .mk closed values
    rw [List.cons_append, readValue_fields hfields, ih.fields hfields (by omega) (by omega) rest]
    rfl

theorem readsWritten (skipping : Bool) (fuel : Nat) : ReadsWritten skipping fuel := by
  induction fuel with
  | zero =>
    refine ⟨fun h hfuel => ?_, fun _ hfuel => by omega, fun _ hfuel => by omega⟩
    obtain ⟨c, u, rfl, -⟩ := h.starts
    simp at hfuel
  | succ fuel ih =>
    exact ⟨readValue_written_of ih, readItems_written_of ih, readFields_written_of ih⟩

/-- A text that writes a document is read, up to the depth that the reader allows and given enough
fuel. -/
theorem readValue_written {skipping : Bool} {d : Nat} {t : List Char} {v : Json}
    (h : Writes skipping d t v) {fuel : Nat} (hfuel : 2 * t.length ≤ fuel) {limit : Nat}
    (hlimit : d ≤ limit ∨ t.length ≤ limit) {a : List Char} (ha : Blank a) {rest : List Char}
    (hrest : EndsNumber rest) :
    readValue skipping fuel limit (a ++ (t ++ rest)) = some (v, rest) := by
  rw [readValue_blank_append skipping fuel limit ha]
  exact (readsWritten skipping fuel).value h hfuel hlimit hrest

end Lookout.Json
