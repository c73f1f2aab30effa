import Lookout.Duration
import Lookout.Json.Printer
import Lookout.Json.Reader
import Lookout.Time.Calendar

/-!
# Cache entries

The last good data of a page with the time it was saved, and the stored text of both: an object with
the members data and timestamp, or a list of the two.

* **`age_of_future`** — an entry saved in the future has no age.
-/

namespace Lookout.Cache

/-- The last good data for a key; the time is in milliseconds from 1 January 1970. -/
structure Entry where
  key : String
  payload : Json
  savedAt : Int
deriving Inhabited

/-- The milliseconds that have passed since the entry was saved, none if it was saved in the future or
at a time that the calendar does not cover. -/
def Entry.age (e : Entry) (now : Int) : Nat :=
  if Time.covers e.savedAt then (now - e.savedAt).toNat else 0

/-- An entry saved in the future has no age. -/
theorem Entry.age_of_future {e : Entry} {now : Int} (h : now ≤ e.savedAt) : e.age now = 0 := by
  unfold Entry.age
  split
  · omega
  · rfl

/-- The stored text of data with its time. -/
def storedText (payload : Json) (savedAt : Int) : String :=
  String.ofList ("\x7b\"data\":".toList ++ payload.print ++ ",\"timestamp\":".toList ++
    Json.printInt savedAt ++ ['\x7d'])

/-- How deep the data may nest in a stored text, of which it is a member. -/
def payloadDepth : Nat := Json.maxDepth - 1

/-- Reads the data at the start of a text. -/
def readPayload (cs : List Char) : Option (Json × List Char) :=
  Json.readValue false (2 * cs.length + 2) payloadDepth cs

/-- Reads the time at the start of a text: a whole number of 64 bits with a sign. -/
def readTimestamp (cs : List Char) : Option (Int × List Char) :=
  match readPayload cs with
  | some (.num (.whole n _), rest) => if n < 0x8000000000000000 then some (n, rest) else none
  | _ => none

/-- Passes over the value at the start of a text. -/
def skipValue (cs : List Char) : Option (List Char) :=
  (Json.readValue true (2 * cs.length + 2) (cs.length + 1) cs).map (·.2)

/-- Reads the value of a member, with the data and the time that were found before it. Each of the two
may stand there once, and other members are passed over. -/
def readMember (name : String) (data : Option Json) (time : Option Int) (cs : List Char) :
    Option (Option Json × Option Int × List Char) :=
  if name = "data" then
    if data.isSome then none else (readPayload cs).map fun (v, r) => (some v, time, r)
  else if name = "timestamp" then
    if time.isSome then none else (readTimestamp cs).map fun (n, r) => (data, some n, r)
  else (skipValue cs).map fun r => (data, time, r)

/-- Reads the members of a stored object up to and with its closing brace. -/
def readMembers : Nat → Option Json → Option Int → List Char →
    Option (Option Json × Option Int × List Char)
  | 0, _, _, _ => none
  | fuel + 1, data, time, cs => do
    let (name, cs) ← Json.readName false cs
    let (data, time, cs) ← readMember name data time cs
    match Json.skipBlanks cs with
    | '\x7d' :: rest => some (data, time, rest)
    | ',' :: rest => readMembers fuel data time rest
    | _ => none

/-- Reads the two items of a stored list up to and with its closing bracket. -/
def readPair (cs : List Char) : Option (Json × Int × List Char) := do
  let (data, cs) ← readPayload cs
  match Json.skipBlanks cs with
  | ',' :: cs =>
    let (time, cs) ← readTimestamp cs
    match Json.skipBlanks cs with
    | ']' :: rest => some (data, time, rest)
    | _ => none
  | _ => none

/-- Reads the data and its time from a stored text; none if the text is anything else. -/
def readStored (s : String) : Option (Json × Int) :=
  let cs := s.toList
  let found : Option (Option Json × Option Int × List Char) :=
    match Json.skipBlanks cs with
    | '\x7b' :: rest => readMembers (cs.length + 1) none none rest
    | '[' :: rest => (readPair rest).map fun (v, n, r) => (some v, some n, r)
    | _ => none
  match found with
  | some (some data, some time, rest) =>
    if (Json.skipBlanks rest).isEmpty then some (data, time) else none
  | _ => none

end Lookout.Cache
