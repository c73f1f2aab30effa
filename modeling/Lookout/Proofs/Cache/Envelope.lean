import Lookout.Proofs.Cache.RoundTrip
import Lookout.Proofs.Json.Grammar

/-!
# What counts as a stored text

The texts that hold data with its time: an object in which each of the two members stands once, among any
others, or a list of the two. Exactly these texts are read as entries, whatever else the place of a key
holds.

* **`readStored_eq_some_iff`** — exactly the stored texts are read.
* **`Stored.document`** — a stored text is a document.
* **`read_unaltered`** — what was written is read back as it was or not at all, and nothing else is read.
-/

namespace Lookout.Cache

open Json

/-! ## Stored texts -/

/-- The members of an object that hold data and a time: each of the two stands there at most once, the
data with a document behind it and the time with the digits of a whole number of 64 bits, and what stands
behind any other name is a document. -/
inductive Holds : List (String × List Char) → Option Json → Option Int → Prop
  | nil : Holds [] none none
  | data {t : List Char} {ms : List (String × List Char)} {v : Json} {time : Option Int}
      (writes : Writes false payloadDepth t v) (rest : Holds ms none time) :
      Holds (("data", t) :: ms) (some v) time
  | timestamp {ms : List (String × List Char)} {n : Int} {data : Option Json} (stamp : IsStamp n)
      (rest : Holds ms data none) : Holds (("timestamp", printInt n) :: ms) data (some n)
  | other {name : String} {t : List Char} {ms : List (String × List Char)} {d : Nat} {v : Json}
      {data : Option Json} {time : Option Int} (data_ne : name ≠ "data") (timestamp_ne : name ≠ "timestamp")
      (writes : Writes true d t v) (rest : Holds ms data time) : Holds ((name, t) :: ms) data time

/-- The texts that hold data and its time, with blanks around them. -/
inductive Stored : List Char → Json → Int → Prop
  | object {a b cs : List Char} {ms : List (String × List Char)} {v : Json} {n : Int} (before : Blank a)
      (closed : Closed '\x7d' (Member false) cs ms) (holds : Holds ms (some v) (some n))
      (behind : Blank b) : Stored (a ++ '\x7b' :: (cs ++ b)) v n
  | pair {a b cs t : List Char} {v : Json} {n : Int} (before : Blank a)
      (closed : Closed ']' Item cs [t, printInt n]) (writes : Writes false payloadDepth t v)
      (stamp : IsStamp n) (behind : Blank b) : Stored (a ++ '[' :: (cs ++ b)) v n

/-! ## Data and time -/

theorem written_of_readPayload {cs rest : List Char} {v : Json} (h : readPayload cs = some (v, rest)) :
    ∃ a t, cs = a ++ (t ++ rest) ∧ Blank a ∧ Writes false payloadDepth t v :=
  written_of_readValue h

theorem readPayload_written {a t rest : List Char} {v : Json} (ha : Blank a)
    (h : Writes false payloadDepth t v) (hrest : EndsNumber rest) :
    readPayload (a ++ (t ++ rest)) = some (v, rest) := by
  rw [readPayload]
  refine readValue_written h ?_ (.inl le_rfl) ha hrest
  simp only [List.length_append]
  omega

theorem IsStamp.fits {n : Int} (h : IsStamp n) : Fits n := ⟨h.1, by have := h.2; omega⟩

theorem writes_printInt (d : Nat) {n : Int} (h : Fits n) : Writes false d (printInt n) (.num (.whole n h)) := by
  have hread := readNumber_printInt h endsNumber_nil
  rw [List.append_nil] at hread
  obtain ⟨t, heq, numeral, -⟩ := numeral_of_readNumber hread
  rw [List.append_nil] at heq
  exact .number rfl (heq ▸ numeral) hread

theorem eq_printInt_of_writes {d : Nat} {t : List Char} {n : Int} {fits : Fits n}
    (h : Writes false d t (.num (.whole n fits))) : t = printInt n := by
  cases h with
  | number _ _ value => exact eq_printInt_of_readNumber value

theorem written_of_readTimestamp {cs rest : List Char} {n : Int}
    (h : readTimestamp cs = some (n, rest)) :
    ∃ a, cs = a ++ (printInt n ++ rest) ∧ Blank a ∧ IsStamp n := by
  have hstamp := isStamp_of_readTimestamp h
  unfold readTimestamp at h
  split at h
  · next m fits r hread =>
    split at h
    · cases h
      obtain ⟨a, t, rfl, ha, ht⟩ := written_of_readPayload hread
      obtain rfl := eq_printInt_of_writes ht
      exact ⟨a, rfl, ha, hstamp⟩
    · cases h
  · cases h

theorem readTimestamp_written {a rest : List Char} {n : Int} (ha : Blank a) (h : IsStamp n)
    (hrest : EndsNumber rest) : readTimestamp (a ++ (printInt n ++ rest)) = some (n, rest) := by
  simp [readTimestamp, readPayload_written ha (writes_printInt payloadDepth h.fits) hrest, h.2]

theorem written_of_skipValue {cs rest : List Char} (h : skipValue cs = some rest) :
    ∃ a t d v, cs = a ++ (t ++ rest) ∧ Blank a ∧ Writes true d t v := by
  obtain ⟨⟨v, r⟩, hread, heq⟩ := Option.map_eq_some_iff.1 h
  cases heq
  obtain ⟨a, t, rfl, ha, ht⟩ := written_of_readValue hread
  exact ⟨a, t, _, v, rfl, ha, ht⟩

theorem skipValue_written {a t rest : List Char} {d : Nat} {v : Json} (ha : Blank a)
    (h : Writes true d t v) (hrest : EndsNumber rest) : skipValue (a ++ (t ++ rest)) = some rest := by
  have hlength : (a ++ (t ++ rest)).length = a.length + (t.length + rest.length) := by simp
  rw [skipValue, readValue_written h (by omega) (.inr (by omega)) ha hrest]
  rfl

/-! ## Members -/

/-- What was found before and what is found behind, of which at most one is there. -/
def Joined {α : Type} (before behind whole : Option α) : Prop :=
  (before = none ∧ whole = behind) ∨ (behind = none ∧ whole = before)

theorem joined_none_left {α : Type} (x : Option α) : Joined none x x := .inl ⟨rfl, rfl⟩

theorem joined_none_right {α : Type} (x : Option α) : Joined x none x := .inr ⟨rfl, rfl⟩

theorem Joined.eq_of_none_left {α : Type} {behind whole : Option α} (h : Joined none behind whole) :
    whole = behind := by
  rcases h with ⟨-, h⟩ | ⟨hbehind, h⟩
  · exact h
  · rw [h, hbehind]

theorem Joined.eq_of_none_right {α : Type} {before whole : Option α} (h : Joined before none whole) :
    whole = before := by
  rcases h with ⟨hbefore, h⟩ | ⟨-, h⟩
  · rw [h, hbefore]
  · exact h

theorem Joined.eq_of_some_left {α : Type} {x : α} {behind whole : Option α}
    (h : Joined (some x) behind whole) : behind = none ∧ whole = some x := by
  rcases h with ⟨h, -⟩ | h
  · cases h
  · exact h

theorem Joined.eq_of_some_right {α : Type} {before whole : Option α} {x : α}
    (h : Joined before (some x) whole) : before = none ∧ whole = some x := by
  rcases h with h | ⟨h, -⟩
  · exact h
  · cases h

/-- What is read behind a name goes together with what the members behind it hold. -/
theorem holds_of_readMember {name : String} {data data₁ : Option Json} {time time₁ : Option Int}
    {cs rest : List Char} (h : readMember name data time cs = some (data₁, time₁, rest)) :
    ∃ a t, cs = a ++ (t ++ rest) ∧ Blank a ∧
      ∀ {ms : List (String × List Char)} {data₂ data' : Option Json} {time₂ time' : Option Int},
        Holds ms data₂ time₂ → Joined data₁ data₂ data' → Joined time₁ time₂ time' →
          ∃ data₃ time₃, Holds ((name, t) :: ms) data₃ time₃ ∧ Joined data data₃ data' ∧
            Joined time time₃ time' := by
  unfold readMember at h
  split at h
  · next hname =>
    subst hname
    split at h
    · cases h
    · next hdata =>
      obtain ⟨⟨v, r⟩, hv, heq⟩ := Option.map_eq_some_iff.1 h
      cases heq
      obtain ⟨a, t, rfl, ha, ht⟩ := written_of_readPayload hv
      refine ⟨a, t, rfl, ha, fun {ms data₂ data' time₂ time'} holds hd htime => ?_⟩
      obtain ⟨rfl, rfl⟩ := hd.eq_of_some_left
      obtain rfl : data = none := by simpa using hdata
      exact ⟨some v, time₂, .data ht holds, joined_none_left _, htime⟩
  · next hdata =>
    split at h
    · next hname =>
      subst hname
      split at h
      · cases h
      · next htime =>
        obtain ⟨⟨n, r⟩, hn, heq⟩ := Option.map_eq_some_iff.1 h
        cases heq
        obtain ⟨a, rfl, ha, hstamp⟩ := written_of_readTimestamp hn
        refine ⟨a, printInt n, rfl, ha, fun {ms data₂ data' time₂ time'} holds hd ht => ?_⟩
        obtain ⟨rfl, rfl⟩ := ht.eq_of_some_left
        obtain rfl : time = none := by simpa using htime
        exact ⟨data₂, some n, .timestamp hstamp holds, hd, joined_none_left _⟩
    · next htimestamp =>
      obtain ⟨r, hskip, heq⟩ := Option.map_eq_some_iff.1 h
      cases heq
      obtain ⟨a, t, d, v, rfl, ha, ht⟩ := written_of_skipValue hskip
      exact ⟨a, t, rfl, ha, fun holds hd htime => ⟨_, _, .other hdata htimestamp ht holds, hd, htime⟩⟩

/-- What the members of an object hold is taken from them one after the other. -/
theorem readMember_holds {name : String} {t : List Char} {ms : List (String × List Char)}
    {data data₁ data' : Option Json} {time time₁ time' : Option Int}
    (h : Holds ((name, t) :: ms) data₁ time₁) (hd : Joined data data₁ data')
    (ht : Joined time time₁ time') {a rest : List Char} (ha : Blank a) (hrest : EndsNumber rest) :
    ∃ data₂ time₂ data₃ time₃, readMember name data time (a ++ (t ++ rest)) = some (data₂, time₂, rest) ∧
      Holds ms data₃ time₃ ∧ Joined data₂ data₃ data' ∧ Joined time₂ time₃ time' := by
  cases h with
  | @data _ _ v _ writes holds =>
    obtain ⟨rfl, rfl⟩ := hd.eq_of_some_right
    exact ⟨some v, time, none, time₁, by simp [readMember, readPayload_written ha writes hrest], holds,
      joined_none_right _, ht⟩
  | @timestamp _ n _ stamp holds =>
    obtain ⟨rfl, rfl⟩ := ht.eq_of_some_right
    exact ⟨data, some n, data₁, none, by simp [readMember, readTimestamp_written ha stamp hrest], holds,
      hd, joined_none_right _⟩
  | other data_ne timestamp_ne writes holds =>
    exact ⟨data, time, data₁, time₁,
      by simp [readMember, data_ne, timestamp_ne, skipValue_written ha writes hrest], holds, hd, ht⟩

theorem holds_of_readMembers {fuel : Nat} {data data' : Option Json} {time time' : Option Int}
    {cs rest : List Char} (h : readMembers fuel data time cs = some (data', time', rest)) :
    ∃ t ms data₁ time₁, cs = t ++ rest ∧ Closed '\x7d' (Member false) t ms ∧ Holds ms data₁ time₁ ∧
      Joined data data₁ data' ∧ Joined time time₁ time' := by
  induction fuel generalizing data time cs with
  | zero => simp [readMembers] at h
  | succ fuel ih =>
    rw [readMembers] at h
    obtain ⟨⟨name, behind⟩, hname, hbehind⟩ := Option.bind_eq_some_iff.1 h
    obtain ⟨⟨data₂, time₂, behind'⟩, hmember, hrest⟩ := Option.bind_eq_some_iff.1 hbehind
    obtain ⟨l, rfl, hl⟩ := label_of_readName hname
    obtain ⟨a, t, rfl, ha, hholds⟩ := holds_of_readMember hmember
    dsimp only at hrest
    split at hrest
    · next hclose =>
      cases hrest
      obtain ⟨b, hb, rfl⟩ := eq_append_of_skipBlanks hclose
      obtain ⟨data₃, time₃, holds, hd, ht⟩ := hholds .nil (joined_none_right _) (joined_none_right _)
      exact ⟨(l ++ (a ++ t)) ++ (b ++ ['\x7d']), [(name, t)], data₃, time₃, by simp, .last ⟨hl, ha⟩ hb,
        holds, hd, ht⟩
    · next hcomma =>
      obtain ⟨b, hb, rfl⟩ := eq_append_of_skipBlanks hcomma
      obtain ⟨u, ms, data₄, time₄, rfl, hclosed, holds, hd, ht⟩ := ih hrest
      obtain ⟨data₃, time₃, holds, hd, ht⟩ := hholds holds hd ht
      exact ⟨(l ++ (a ++ t)) ++ (b ++ ',' :: u), (name, t) :: ms, data₃, time₃, by simp,
        .more ⟨hl, ha⟩ hb hclosed, holds, hd, ht⟩
    · cases hrest

theorem readMembers_holds {t : List Char} {ms : List (String × List Char)}
    (h : Closed '\x7d' (Member false) t ms) {data data₁ data' : Option Json}
    {time time₁ time' : Option Int} (holds : Holds ms data₁ time₁) (hd : Joined data data₁ data')
    (ht : Joined time time₁ time') {fuel : Nat} (hfuel : t.length ≤ fuel) (rest : List Char) :
    readMembers fuel data time (t ++ rest) = some (data', time', rest) := by
  induction h generalizing data time data₁ time₁ fuel with
  | @last _ b _ part blank =>
    obtain @⟨l, a, t, name, hl, ha⟩ := part
    obtain ⟨data₂, time₂, data₃, time₃, hread, holds, hd, ht⟩ := readMember_holds holds hd ht ha
      (endsNumber_blank_append blank (endsNumber_brace rest))
    cases holds
    obtain rfl := hd.eq_of_none_right
    obtain rfl := ht.eq_of_none_right
    simp only [List.length_append, List.length_singleton] at hfuel
    obtain ⟨fuel, rfl⟩ : ∃ f, fuel = f + 1 := Nat.exists_eq_succ_of_ne_zero (by omega)
    have htext : (l ++ (a ++ t)) ++ (b ++ ['\x7d']) ++ rest =
        l ++ (a ++ (t ++ (b ++ '\x7d' :: rest))) := by simp
    rw [readMembers, htext, readName_label hl]
    simp only [Option.bind_eq_bind, Option.bind_some, hread,
      skipBlanks_append_cons blank (by decide : isBlank '\x7d' = false)]
  | @more _ b cs _ _ part blank hclosed ih =>
    obtain @⟨l, a, t, name, hl, ha⟩ := part
    obtain ⟨data₂, time₂, data₃, time₃, hread, holds, hd, ht⟩ := readMember_holds holds hd ht ha
      (endsNumber_blank_append blank (endsNumber_comma (cs ++ rest)))
    simp only [List.length_append, List.length_cons] at hfuel
    obtain ⟨fuel, rfl⟩ : ∃ f, fuel = f + 1 := Nat.exists_eq_succ_of_ne_zero (by omega)
    have htext : (l ++ (a ++ t)) ++ (b ++ ',' :: cs) ++ rest =
        l ++ (a ++ (t ++ (b ++ ',' :: (cs ++ rest)))) := by simp
    rw [readMembers, htext, readName_label hl]
    simp only [Option.bind_eq_bind, Option.bind_some, hread,
      skipBlanks_append_cons blank (by decide : isBlank ',' = false)]
    exact ih holds hd ht (by omega)

/-! ## Lists of two -/

/-- A list of two items. -/
theorem closed_two {cs t u : List Char} : Closed ']' Item cs [t, u] ↔
    ∃ a b c d, Blank a ∧ Blank b ∧ Blank c ∧ Blank d ∧
      cs = (a ++ t) ++ (b ++ ',' :: ((c ++ u) ++ (d ++ [']']))) := by
  constructor
  · intro h
    cases h with
    | more part blank rest =>
      cases rest with
      | last part' blank' =>
        obtain ⟨ha⟩ := part
        obtain ⟨hc⟩ := part'
        exact ⟨_, _, _, _, ha, blank, hc, blank', rfl⟩
      | more _ _ rest => cases rest
  · rintro ⟨a, b, c, d, ha, hb, hc, hd, rfl⟩
    exact .more ⟨ha⟩ hb (.last ⟨hc⟩ hd)

theorem closed_of_readPair {cs rest : List Char} {v : Json} {n : Int}
    (h : readPair cs = some (v, n, rest)) :
    ∃ t u, cs = t ++ rest ∧ Closed ']' Item t [u, printInt n] ∧ Writes false payloadDepth u v ∧
      IsStamp n := by
  unfold readPair at h
  obtain ⟨⟨w, behind⟩, hdata, hbehind⟩ := Option.bind_eq_some_iff.1 h
  obtain ⟨a, u, rfl, ha, hu⟩ := written_of_readPayload hdata
  dsimp only at hbehind
  split at hbehind
  · next hcomma =>
    obtain ⟨b, hb, rfl⟩ := eq_append_of_skipBlanks hcomma
    obtain ⟨⟨m, behind'⟩, htime, hrest⟩ := Option.bind_eq_some_iff.1 hbehind
    obtain ⟨c, rfl, hc, hstamp⟩ := written_of_readTimestamp htime
    dsimp only at hrest
    split at hrest
    · next hclose =>
      cases hrest
      obtain ⟨d, hd, rfl⟩ := eq_append_of_skipBlanks hclose
      exact ⟨(a ++ u) ++ (b ++ ',' :: ((c ++ printInt n) ++ (d ++ [']']))), u, by simp,
        closed_two.2 ⟨a, b, c, d, ha, hb, hc, hd, rfl⟩, hu, hstamp⟩
    · cases hrest
  · cases hbehind

theorem readPair_closed {t u : List Char} {v : Json} {n : Int}
    (h : Closed ']' Item t [u, printInt n]) (hu : Writes false payloadDepth u v) (hn : IsStamp n)
    (rest : List Char) : readPair (t ++ rest) = some (v, n, rest) := by
  obtain ⟨a, b, c, d, ha, hb, hc, hd, rfl⟩ := closed_two.1 h
  have htext : (a ++ u) ++ (b ++ ',' :: ((c ++ printInt n) ++ (d ++ [']']))) ++ rest =
      a ++ (u ++ (b ++ ',' :: (c ++ (printInt n ++ (d ++ ']' :: rest))))) := by simp
  rw [readPair, htext, readPayload_written ha hu (endsNumber_blank_append hb (endsNumber_comma _))]
  simp only [Option.bind_eq_bind, Option.bind_some,
    skipBlanks_append_cons hb (by decide : isBlank ',' = false),
    readTimestamp_written hc hn (endsNumber_blank_append hd (endsNumber_bracket rest)),
    skipBlanks_append_cons hd (by decide : isBlank ']' = false)]

/-! ## Whole texts -/

theorem isEmpty_skipBlanks_iff {cs : List Char} : (skipBlanks cs).isEmpty = true ↔ Blank cs := by
  rw [List.isEmpty_iff, skipBlanks, List.dropWhile_eq_nil_iff]
  rfl

/-- Exactly the stored texts are read. -/
theorem readStored_eq_some_iff {s : String} {v : Json} {n : Int} :
    readStored s = some (v, n) ↔ Stored s.toList v n := by
  constructor
  · intro h
    simp only [readStored] at h
    split at h
    · next data time rest hfound =>
      split at h
      · next hempty =>
        cases h
        have hrest := isEmpty_skipBlanks_iff.1 hempty
        split at hfound
        · next hbrace =>
          obtain ⟨a, ha, heq⟩ := eq_append_of_skipBlanks hbrace
          obtain ⟨t, ms, data₁, time₁, rfl, hclosed, holds, hd, ht⟩ := holds_of_readMembers hfound
          obtain rfl := hd.eq_of_none_left
          obtain rfl := ht.eq_of_none_left
          rw [heq]
          exact .object ha hclosed holds hrest
        · next hbracket =>
          obtain ⟨a, ha, heq⟩ := eq_append_of_skipBlanks hbracket
          obtain ⟨⟨w, m, r⟩, hpair, hsame⟩ := Option.map_eq_some_iff.1 hfound
          cases hsame
          obtain ⟨t, u, rfl, hclosed, hu, hn⟩ := closed_of_readPair hpair
          rw [heq]
          exact .pair ha hclosed hu hn hrest
        · cases hfound
      · cases h
    · cases h
  · intro h
    simp only [readStored]
    generalize s.toList = cs at h
    cases h with
    | @object a b t ms _ _ before closed holds behind =>
      have hlength : t.length ≤ (a ++ '\x7b' :: (t ++ b)).length + 1 := by simp; omega
      rw [skipBlanks_append_cons before (by decide)]
      simp only [readMembers_holds closed holds (joined_none_left _) (joined_none_left _) hlength b]
      rw [if_pos (isEmpty_skipBlanks_iff.2 behind)]
    | @pair a b t _ _ _ before closed writes stamp behind =>
      rw [skipBlanks_append_cons before (by decide)]
      simp only [readPair_closed closed writes stamp b, Option.map_some]
      rw [if_pos (isEmpty_skipBlanks_iff.2 behind)]

theorem Holds.documents {ms : List (String × List Char)} {data : Option Json} {time : Option Int}
    (h : Holds ms data time) : ∃ d, ∀ m ∈ ms, ∃ v, Writes true d m.2 v := by
  induction h with
  | nil => exact ⟨0, by simp⟩
  | data writes _ ih =>
    obtain ⟨d, hd⟩ := ih
    obtain ⟨u, hu⟩ := writes.passed
    exact ⟨max payloadDepth d, List.forall_mem_cons.2 ⟨⟨u, hu.mono (by omega)⟩,
      fun m hm => (hd m hm).imp fun _ hv => hv.mono (by omega)⟩⟩
  | @timestamp _ n _ stamp _ ih =>
    obtain ⟨d, hd⟩ := ih
    obtain ⟨u, hu⟩ := (writes_printInt d stamp.fits).passed
    exact ⟨d, List.forall_mem_cons.2 ⟨⟨u, hu⟩, hd⟩⟩
  | @other _ _ _ d' _ _ _ _ _ writes _ ih =>
    obtain ⟨d, hd⟩ := ih
    exact ⟨max d' d, List.forall_mem_cons.2 ⟨⟨_, writes.mono (by omega)⟩,
      fun m hm => (hd m hm).imp fun _ hv => hv.mono (by omega)⟩⟩

theorem Holds.isStamp {ms : List (String × List Char)} {data : Option Json} {n : Int}
    (h : Holds ms data (some n)) : IsStamp n := by
  generalize htime : some n = time at h
  induction h with
  | nil => cases htime
  | data _ _ ih => exact ih htime
  | timestamp stamp _ _ =>
    cases htime
    exact stamp
  | other _ _ _ _ ih => exact ih htime

/-- A stored text is a document. -/
theorem Stored.document {cs : List Char} {v : Json} {n : Int} (h : Stored cs v n) : Document cs := by
  cases h with
  | object before closed holds behind =>
    obtain ⟨d, hd⟩ := holds.documents
    obtain ⟨u, hu⟩ := exists_writes_of_members (closed.imp fun _ _ => Member.passed) hd
    exact ⟨_, _, _, _, u, before, behind, hu, rfl⟩
  | pair before closed writes stamp behind =>
    obtain ⟨u, hu⟩ := writes.passed
    obtain ⟨w, hw⟩ := (writes_printInt payloadDepth stamp.fits).passed
    obtain ⟨x, hx⟩ := exists_writes_of_items closed (by simpa using ⟨⟨u, hu⟩, ⟨w, hw⟩⟩)
    exact ⟨_, _, _, _, x, before, behind, hx, rfl⟩

theorem Stored.isStamp {cs : List Char} {v : Json} {n : Int} (h : Stored cs v n) : IsStamp n := by
  cases h with
  | object _ _ holds _ => exact holds.isStamp
  | pair _ _ _ stamp _ => exact stamp

/-! ## Entries -/

/-- An entry is read exactly if the text in its place is a stored text. -/
theorem read_eq_some_iff {space key : String} {s : Storage} {e : Entry} :
    read space s key = some e ↔
      e.key = key ∧ ∃ text, s.get? (slotName space key) = some text ∧
        Stored text.toList e.payload e.savedAt := by
  unfold read
  cases s.get? (slotName space key) with
  | none => simp
  | some text =>
    simp only [Option.map_eq_some_iff, Option.some.injEq, exists_eq_left', ← readStored_eq_some_iff]
    constructor
    · rintro ⟨⟨v, n⟩, hread, rfl⟩
      exact ⟨rfl, hread⟩
    · rintro ⟨rfl, hread⟩
      exact ⟨_, hread, rfl⟩

/-- What was written is read back as it was, or not at all if it nests too deep. An entry is read only
from a document that is an object with data and a time or a list of the two, and from every such text. -/
theorem read_unaltered (space key : String) :
    (∀ (s : Storage) (payload : Json) (now : Int), s.getFails = false → s.setFails = false →
      Readable payload → IsStamp now →
        (write space s key payload now).2.key = key ∧
        (write space s key payload now).2.payload = payload ∧
        read space (write space s key payload now).1 key =
          if depth payload ≤ payloadDepth then some (write space s key payload now).2 else none) ∧
    (∀ (s : Storage) (e : Entry), read space s key = some e ↔
      e.key = key ∧ ∃ text, s.get? (slotName space key) = some text ∧
        Stored text.toList e.payload e.savedAt) ∧
    ∀ (cs : List Char) (v : Json) (n : Int), Stored cs v n → Document cs ∧ IsStamp n := by
  refine ⟨fun s payload now hget hset hpayload hnow => ⟨rfl, rfl, ?_⟩, fun s e => read_eq_some_iff,
    fun cs v n h => ⟨h.document, h.isStamp⟩⟩
  exact read_write hget hset hpayload (isStamp_stamp space s key payload hnow)

/-- A time before 1970 and a text with an escape come back from a storage that held nothing. -/
theorem read_unaltered_early :
    read "https://example" (write "https://example" .empty "chats" (.arr [.str "\n\""]) (-5)).1 "chats" =
      some ⟨"chats", .arr [.str "\n\""], -5⟩ := by
  have hread := ((read_unaltered "https://example" "chats").1 .empty (.arr [.str "\n\""]) (-5) rfl rfl
    ⟨by simp [Ordered, OrderedItems], by simp [reals, realsItems]⟩ (by decide)).2.2
  rw [hread]
  simp [depth, depthItems, payloadDepth, maxDepth, write, stamp, read, Storage.empty, Storage.get?]

end Lookout.Cache
