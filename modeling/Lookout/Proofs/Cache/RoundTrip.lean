import Lookout.Cache.Store
import Lookout.Proofs.Json.RoundTrip

/-!
# What is stored is read back

The stored text of data with its time is read back as both, as long as the data nests at most 126 deep:
the data is a member of the stored object, which takes one of the 127 levels that a reader allows.

* **`readStored_storedText`** — a stored text is read back exactly if its data does not nest too deep.
* **`read_write`** — an entry that was written is read back exactly if its data does not nest too deep.
* **`read_write_of_ne`** — writing to another place leaves an entry alone.
-/

namespace Lookout.Cache

open Json

/-- A time that the stored form holds: a whole number of 64 bits with a sign. -/
def IsStamp (n : Int) : Prop := -0x8000000000000000 ≤ n ∧ n < 0x8000000000000000

instance (n : Int) : Decidable (IsStamp n) := by unfold IsStamp; infer_instance

/-! ## The stored text -/

theorem readPayload_print {v : Json} (h : Readable v) {rest : List Char} (hrest : EndsNumber rest) :
    readPayload (print v ++ rest) = if depth v ≤ payloadDepth then some (v, rest) else none := by
  rw [readPayload, List.length_append]
  exact readValue_print h (by omega) payloadDepth hrest

theorem readTimestamp_printInt {n : Int} (h : IsStamp n) {rest : List Char} (hrest : EndsNumber rest) :
    readTimestamp (printInt n ++ rest) = some (n, rest) := by
  have hfits : Fits n := ⟨h.1, by have := h.2; omega⟩
  have hread : readPayload (printInt n ++ rest) = some (.num (.whole n hfits), rest) := by
    have hnum : Readable (.num (.whole n hfits)) := ⟨trivial, by simp [reals]⟩
    simpa [print, printNumber, depth] using readPayload_print hnum hrest
  simp [readTimestamp, hread, h.2]

theorem readMembers_data (fuel : Nat) {v : Json} (h : Readable v) (rest : List Char) :
    readMembers (fuel + 1) none none (printString "data" ++ ':' :: (print v ++ ',' :: rest)) =
      if depth v ≤ payloadDepth then readMembers fuel (some v) none rest else none := by
  rw [readMembers, readName_printed]
  simp only [Option.bind_eq_bind, Option.bind_some, readMember, if_true,
    readPayload_print h (endsNumber_comma rest)]
  by_cases hd : depth v ≤ payloadDepth
  · simp [hd, skipBlanks_cons (by decide : isBlank ',' = false)]
  · simp [hd]

theorem readMembers_timestamp (fuel : Nat) (v : Json) {n : Int} (h : IsStamp n) :
    readMembers (fuel + 1) (some v) none (printString "timestamp" ++ ':' :: (printInt n ++ ['\x7d'])) =
      some (some v, some n, []) := by
  rw [readMembers, readName_printed]
  simp [readMember, readTimestamp_printInt h (endsNumber_brace []),
    skipBlanks_cons (by decide : isBlank '\x7d' = false)]

theorem dataLabel : "\x7b\"data\":".toList = '\x7b' :: (printString "data" ++ [':']) := by decide

theorem timestampLabel : ",\"timestamp\":".toList = ',' :: (printString "timestamp" ++ [':']) := by
  decide

theorem toList_storedText (v : Json) (n : Int) :
    (storedText v n).toList = '\x7b' :: (printString "data" ++ ':' :: (print v ++ ',' ::
      (printString "timestamp" ++ ':' :: (printInt n ++ ['\x7d'])))) := by
  unfold storedText
  rw [String.toList_ofList, dataLabel, timestampLabel]
  simp only [List.append_assoc, List.cons_append, List.nil_append]

/-- A stored text is read back exactly if its data does not nest too deep. -/
theorem readStored_storedText {v : Json} (h : Readable v) {n : Int} (hn : IsStamp n) :
    readStored (storedText v n) = if depth v ≤ payloadDepth then some (v, n) else none := by
  have hlen : ∃ fuel, (storedText v n).toList.length = fuel + 1 := by
    rw [toList_storedText]
    exact ⟨_, rfl⟩
  obtain ⟨fuel, hlen⟩ := hlen
  simp only [readStored, hlen]
  rw [toList_storedText, skipBlanks_cons (by decide)]
  simp only [readMembers_data (fuel + 1) h, readMembers_timestamp fuel v hn]
  by_cases hd : depth v ≤ payloadDepth
  · simp [hd, skipBlanks]
  · simp [hd]

/-! ## What is read -/

theorem readPayload_shaped {cs rest : List Char} {v : Json} (h : readPayload cs = some (v, rest)) :
    Shaped payloadDepth v := readValue_shaped h

theorem isStamp_of_readTimestamp {cs rest : List Char} {n : Int}
    (h : readTimestamp cs = some (n, rest)) : IsStamp n := by
  unfold readTimestamp at h
  split at h
  · next m fits r _ =>
    split at h
    · next hlt =>
      cases h
      exact ⟨fits.1, hlt⟩
    · cases h
  · cases h

/-- Data and time as far as they are known. -/
structure Known (data : Option Json) (time : Option Int) : Prop where
  data : ∀ v ∈ data, Shaped payloadDepth v
  time : ∀ n ∈ time, IsStamp n

theorem readMember_known {name : String} {data data' : Option Json} {time time' : Option Int}
    {cs rest : List Char} (known : Known data time)
    (h : readMember name data time cs = some (data', time', rest)) : Known data' time' := by
  unfold readMember at h
  split at h
  · split at h
    · cases h
    · obtain ⟨⟨v, r⟩, hv, heq⟩ := Option.map_eq_some_iff.1 h
      cases heq
      refine ⟨?_, known.time⟩
      rintro w ⟨⟩
      exact readPayload_shaped hv
  · split at h
    · split at h
      · cases h
      · obtain ⟨⟨n, r⟩, hn, heq⟩ := Option.map_eq_some_iff.1 h
        cases heq
        refine ⟨known.data, ?_⟩
        rintro m ⟨⟩
        exact isStamp_of_readTimestamp hn
    · obtain ⟨r, -, heq⟩ := Option.map_eq_some_iff.1 h
      cases heq
      exact known

theorem readMembers_known {fuel : Nat} {data data' : Option Json} {time time' : Option Int}
    {cs rest : List Char} (known : Known data time)
    (h : readMembers fuel data time cs = some (data', time', rest)) : Known data' time' := by
  induction fuel generalizing data time cs with
  | zero => simp [readMembers] at h
  | succ fuel ih =>
    rw [readMembers] at h
    obtain ⟨⟨name, cs'⟩, -, h⟩ := Option.bind_eq_some_iff.1 h
    obtain ⟨⟨data'', time'', cs''⟩, hmember, h⟩ := Option.bind_eq_some_iff.1 h
    have known'' := readMember_known known hmember
    dsimp only at h
    split at h
    · cases h
      exact known''
    · exact ih known'' h
    · cases h

theorem readPair_known {cs rest : List Char} {v : Json} {n : Int}
    (h : readPair cs = some (v, n, rest)) : Shaped payloadDepth v ∧ IsStamp n := by
  unfold readPair at h
  obtain ⟨⟨w, cs'⟩, hw, h⟩ := Option.bind_eq_some_iff.1 h
  dsimp only at h
  split at h
  · obtain ⟨⟨m, cs''⟩, hm, h⟩ := Option.bind_eq_some_iff.1 h
    dsimp only at h
    split at h
    · cases h
      exact ⟨readPayload_shaped hw, isStamp_of_readTimestamp hm⟩
    · cases h
  · cases h

/-- Data that is read from a stored text is in order and nests at most 126 deep, and its time is a
whole number of 64 bits. -/
theorem readStored_known {s : String} {v : Json} {n : Int} (h : readStored s = some (v, n)) :
    Shaped payloadDepth v ∧ IsStamp n := by
  simp only [readStored] at h
  split at h
  · next data time rest hfound =>
    split at h
    · cases h
      split at hfound
      · have known := readMembers_known ⟨by simp, by simp⟩ hfound
        exact ⟨known.data v rfl, known.time n rfl⟩
      · obtain ⟨⟨w, m, r⟩, hpair, heq⟩ := Option.map_eq_some_iff.1 hfound
        cases heq
        exact readPair_known hpair
      · cases hfound
    · cases h
  · cases h

/-! ## Entries -/

theorem read_known {space : String} {s : Storage} {key : String} {e : Entry}
    (h : read space s key = some e) :
    e.key = key ∧ Shaped payloadDepth e.payload ∧ IsStamp e.savedAt := by
  unfold read at h
  split at h
  · cases h
  · obtain ⟨⟨v, n⟩, hstored, heq⟩ := Option.map_eq_some_iff.1 h
    cases heq
    exact ⟨rfl, readStored_known hstored⟩

theorem isStamp_stamp (space : String) (s : Storage) (key : String) (payload : Json) {now : Int}
    (h : IsStamp now) : IsStamp (stamp space s key payload now).savedAt := by
  simp only [stamp]
  split
  · next previous hread =>
    have hprevious := (read_known hread).2.2
    rcases Int.le_total now previous.savedAt with hle | hle
    · rw [Int.max_eq_right hle]
      exact hprevious
    · rw [Int.max_eq_left hle]
      exact h
  · exact h

@[simp] theorem Storage.getFails_set (s : Storage) (name text : String) :
    (s.set name text).getFails = s.getFails := by
  unfold set
  dsimp only
  split <;> rfl

@[simp] theorem Storage.setFails_set (s : Storage) (name text : String) :
    (s.set name text).setFails = s.setFails := by
  unfold set
  dsimp only
  split <;> rfl

theorem get?_set_self {s : Storage} (hget : s.getFails = false) (hset : s.setFails = false)
    (name text : String) : (s.set name text).get? name = some text := by
  simp [Storage.set, Storage.get?, Storage.plant, hget, hset]

theorem lookup_filter_of_ne {name other : String} (h : other ≠ name) (slots : List (String × String)) :
    (slots.filter (·.1 ≠ name)).lookup other = slots.lookup other := by
  induction slots with
  | nil => rfl
  | cons slot slots ih =>
    obtain ⟨n, text⟩ := slot
    by_cases hn : n = name
    · subst hn
      have hother : (other == n) = false := by simpa using h
      simpa [List.lookup_cons, hother] using ih
    · by_cases hother : other = n
      · simp [hother, hn]
      · have hbeq : (other == n) = false := by simpa using hother
        simpa [hn, List.lookup_cons, hbeq] using ih

/-- Writing under a name leaves the texts under other names alone. -/
theorem get?_set_of_ne (s : Storage) {name other : String} (h : other ≠ name) (text : String) :
    (s.set name text).get? other = s.get? other := by
  have hbeq : (other == name) = false := by simpa using h
  cases hset : s.setFails with
  | true => simp [Storage.set, Storage.get?, hset]
  | false => simp only [Storage.set, Storage.get?, Storage.plant, hset, Bool.false_eq_true, if_false,
      List.lookup_cons, hbeq, lookup_filter_of_ne h]

/-- An entry that was written is read back exactly if its data does not nest too deep. -/
theorem read_write {s : Storage} (hget : s.getFails = false) (hset : s.setFails = false)
    {space key : String} {payload : Json} (h : Readable payload) {now : Int}
    (hstamp : IsStamp (stamp space s key payload now).savedAt) :
    read space (write space s key payload now).1 key =
      if depth payload ≤ payloadDepth then some (write space s key payload now).2 else none := by
  simp only [write, read, get?_set_self hget hset]
  rw [show (stamp space s key payload now).payload = payload from rfl,
    readStored_storedText h hstamp]
  by_cases hd : depth payload ≤ payloadDepth
  · simp only [hd, if_true, Option.map_some]
    rfl
  · simp [hd]

/-- Writing to another place leaves an entry alone. -/
theorem read_write_of_ne (s : Storage) {space key other : String}
    (h : slotName space other ≠ slotName space key) (payload : Json) (now : Int) :
    read space (write space s key payload now).1 other = read space s other := by
  simp only [write, read, get?_set_of_ne s h]

end Lookout.Cache
