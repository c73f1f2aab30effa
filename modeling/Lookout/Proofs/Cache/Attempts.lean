import Lookout.Proofs.Cache.RoundTrip

/-!
# Writes one after the other

What a store is asked to write for one key as time passes: the data, what the calendar shows at that
moment, and which operations of the storage fail then. The calendar may step back between two writes,
and the operations may fail in any pattern.

* **`slots_attempts_of_ne`** — writes to one place leave the texts in all other places alone.
* **`read_congr`** — what is read depends on the text in one place.
-/

namespace Lookout.Cache

/-- A write that a store is asked for: the data, what the calendar shows at that moment, and which
operations of the storage fail then. -/
structure Attempt where
  payload : Json
  time : Int
  getFails : Bool
  setFails : Bool

/-- The storage while some of its operations fail. -/
def Storage.failing (s : Storage) (getFails setFails : Bool) : Storage :=
  { s with getFails := getFails, setFails := setFails }

/-- One write: the storage after it, and the entry that it returns. -/
def attempt (space key : String) (s : Storage) (a : Attempt) : Storage × Entry :=
  write space (s.failing a.getFails a.setFails) key a.payload a.time

/-- The storage after writes, one after the other. -/
def attempts (space key : String) (s : Storage) (as : List Attempt) : Storage :=
  as.foldl (fun s a => (attempt space key s a).1) s

/-- The entries that writes return, in their order. -/
def returned (space key : String) : Storage → List Attempt → List Entry
  | _, [] => []
  | s, a :: as => (attempt space key s a).2 :: returned space key (attempt space key s a).1 as

/-- The entry that is filed for a key, whether it can be got at the moment or not. -/
def filed (space : String) (s : Storage) (key : String) : Option Entry :=
  read space (s.failing false false) key

theorem attempts_append (space key : String) (s : Storage) (as bs : List Attempt) :
    attempts space key s (as ++ bs) = attempts space key (attempts space key s as) bs :=
  List.foldl_append

theorem attempts_concat (space key : String) (s : Storage) (as : List Attempt) (a : Attempt) :
    attempts space key s (as ++ [a]) = (attempt space key (attempts space key s as) a).1 := by
  rw [attempts_append]
  rfl

/-! ## Places -/

/-- A text that is written is there, unless it cannot be written. -/
theorem Storage.lookup_set (s : Storage) (name text : String) :
    (s.set name text).slots.lookup name =
      if s.setFails then s.slots.lookup name else some text := by
  unfold Storage.set
  dsimp only
  split
  · rfl
  · exact List.lookup_cons_self

/-- A write leaves the texts in other places alone. -/
theorem slots_attempt_of_ne (s : Storage) {space key name : String} (h : name ≠ slotName space key)
    (a : Attempt) : (attempt space key s a).1.slots.lookup name = s.slots.lookup name := by
  have hbeq : (name == slotName space key) = false := by simpa using h
  cases hset : a.setFails with
  | true => simp [attempt, write, Storage.set, Storage.failing, hset]
  | false =>
    simp only [attempt, write, Storage.set, Storage.failing, Storage.plant, hset, Bool.false_eq_true,
      if_false, List.lookup_cons, hbeq, lookup_filter_of_ne h]

/-- Writes to one place leave the texts in all other places alone. -/
theorem slots_attempts_of_ne (s : Storage) {space key name : String} (h : name ≠ slotName space key)
    (as : List Attempt) : (attempts space key s as).slots.lookup name = s.slots.lookup name := by
  induction as generalizing s with
  | nil => rfl
  | cons a as ih =>
    show (attempts space key (attempt space key s a).1 as).slots.lookup name = _
    rw [ih, slots_attempt_of_ne s h a]

/-- What is read depends on the text in the place of the key and on whether it can be got. -/
theorem read_congr {s t : Storage} {space key : String} (gets : t.getFails = s.getFails)
    (slot : t.slots.lookup (slotName space key) = s.slots.lookup (slotName space key)) :
    read space t key = read space s key := by
  have hget : t.get? (slotName space key) = s.get? (slotName space key) := by
    simp only [Storage.get?, gets, slot]
  simp only [read, hget]

/-- The stamp that data gets depends on the same. -/
theorem stamp_congr {s t : Storage} {space key : String} (gets : t.getFails = s.getFails)
    (slot : t.slots.lookup (slotName space key) = s.slots.lookup (slotName space key))
    (payload : Json) (now : Int) : stamp space t key payload now = stamp space s key payload now := by
  rw [stamp, stamp, read_congr gets slot]

/-- The text in the place of a key after a write depends on the text there before, and on which operations
fail. -/
theorem lookup_write_congr {s t : Storage} {space key : String} (gets : t.getFails = s.getFails)
    (sets : t.setFails = s.setFails)
    (slot : t.slots.lookup (slotName space key) = s.slots.lookup (slotName space key))
    (payload : Json) (now : Int) :
    (write space t key payload now).1.slots.lookup (slotName space key) =
      (write space s key payload now).1.slots.lookup (slotName space key) := by
  rw [write, write, stamp_congr gets slot, Storage.lookup_set, Storage.lookup_set, sets, slot]

/-- Two pairs that name one place find the same there, each under its own key. -/
theorem read_of_same_place {space key space' key' : String}
    (h : slotName space' key' = slotName space key) (s : Storage) :
    read space' s key' = (read space s key).map fun e => ⟨key', e.payload, e.savedAt⟩ := by
  unfold read
  rw [h]
  split
  · rfl
  · rw [Option.map_map]
    rfl

end Lookout.Cache
