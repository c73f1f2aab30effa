import Lookout.Cache.Digest
import Lookout.Cache.Entry

/-!
# The cache

Entries filed under digests of their keys. Reading and writing never fail: whatever goes wrong with the
storage counts as if nothing had been stored. The time of an entry never goes back while it is
overwritten, whatever the clock does.

* **`write_savedAt`** — an entry is no older than the one it replaces.
* **`write_payload`** — what is written is what is returned.
-/

namespace Lookout.Cache

/-- The storage below the cache: a text for every name in use, the writes that it was asked for and
those that reached it, the latest first, and which of its operations fail at the moment. -/
structure Storage where
  slots : List (String × String)
  tried : List (String × String)
  written : List (String × String)
  getFails : Bool
  setFails : Bool
deriving Inhabited

namespace Storage

/-- A storage that holds nothing. -/
def empty : Storage := ⟨[], [], [], false, false⟩

/-- Puts a text under a name, past all failures. -/
def plant (s : Storage) (name text : String) : Storage :=
  { s with slots := (name, text) :: s.slots.filter (·.1 ≠ name) }

/-- The text under a name. -/
def get? (s : Storage) (name : String) : Option String :=
  if s.getFails then none else s.slots.lookup name

/-- Writes a text under a name. -/
def set (s : Storage) (name text : String) : Storage :=
  let s := { s with tried := (name, text) :: s.tried }
  if s.setFails then s else { s.plant name text with written := (name, text) :: s.written }

/-- The storage as a new connection sees it. -/
def reopened (s : Storage) : Storage := ⟨s.slots, [], [], false, false⟩

end Storage

/-- The text whose digest names the place of a key; a namespace keeps the keys of different servers
apart. -/
def slotText (space key : String) : String := space ++ ":" ++ key

/-- The name of the place of a key. -/
def slotName (space key : String) : String := Digest.ofText (slotText space key)

/-- The entry for a key. -/
def read (space : String) (s : Storage) (key : String) : Option Entry :=
  match s.get? (slotName space key) with
  | none => none
  | some text => (readStored text).map fun (payload, savedAt) => ⟨key, payload, savedAt⟩

/-- The entry that data becomes when it is written at a time. -/
def stamp (space : String) (s : Storage) (key : String) (payload : Json) (now : Int) : Entry :=
  let savedAt := match read space s key with
    | some previous => max now previous.savedAt
    | none => now
  ⟨key, payload, savedAt⟩

/-- Writes data for a key at a time; returns the entry as it was stamped. -/
def write (space : String) (s : Storage) (key : String) (payload : Json) (now : Int) :
    Storage × Entry :=
  let entry := stamp space s key payload now
  (s.set (slotName space key) (storedText entry.payload entry.savedAt), entry)

/-- An entry is no older than the one it replaces. -/
theorem write_savedAt {space : String} {s : Storage} {key : String} {previous : Entry}
    (h : read space s key = some previous) (payload : Json) (now : Int) :
    previous.savedAt ≤ (write space s key payload now).2.savedAt := by
  simp only [write, stamp, h]
  exact Int.le_max_right _ _

/-- What is written is what is returned. -/
theorem write_payload (space : String) (s : Storage) (key : String) (payload : Json) (now : Int) :
    (write space s key payload now).2.payload = payload := rfl

end Lookout.Cache
