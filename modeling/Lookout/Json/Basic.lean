import Lookout.Decimal.Shortest

/-!
# Documents

The dynamic value that servers send and the cache keeps: null, truth values, numbers, texts, lists and
objects. An object holds its members in increasing order of their names, each name once.

* **`lookup_insertField`** — after setting a member, its name finds the new value and every other name
  finds what it found before.
-/

namespace Lookout

namespace Json

/-- The whole numbers that a document holds exactly. -/
def Fits (n : Int) : Prop := -0x8000000000000000 ≤ n ∧ n < 0x10000000000000000

instance (n : Int) : Decidable (Fits n) := by unfold Fits; infer_instance

/-- A number: a whole number of 64 bits, or a finite double-precision number. -/
inductive Number
  | whole (value : Int) (fits : Fits value)
  | real (value : Binary64) (finite : value.isFinite = true)
deriving DecidableEq

end Json

/-- A document. -/
inductive Json
  | null
  | bool (value : Bool)
  | num (value : Json.Number)
  | str (value : String)
  | arr (items : List Json)
  | obj (fields : List (String × Json))
deriving Inhabited

namespace Json

/-- The whole number as a document, or null if no document holds it. -/
def ofInt (n : Int) : Json := if h : Fits n then .num (.whole n h) else .null

/-- The natural number as a document, or null if no document holds it. -/
def ofNat (n : Nat) : Json := ofInt n

/-- The double-precision number as a document, null if it is not finite. -/
def ofReal (x : Binary64) : Json := if h : x.isFinite = true then .num (.real x h) else .null

/-- Sets the member `name`, replacing one of the same name and keeping the order. -/
def insertField (name : String) (value : Json) : List (String × Json) → List (String × Json)
  | [] => [(name, value)]
  | (n, v) :: rest =>
    if name < n then (name, value) :: (n, v) :: rest
    else if name = n then (name, value) :: rest
    else (n, v) :: insertField name value rest

/-- The value of the member `name` of a list of members. -/
def lookup (name : String) : List (String × Json) → Option Json
  | [] => none
  | (n, v) :: rest => if n = name then some v else lookup name rest

/-- The members in order, the last of several with one name. -/
def sortFields (fields : List (String × Json)) : List (String × Json) :=
  fields.foldl (fun sorted f => insertField f.1 f.2 sorted) []

/-- The value of the member `name` of an object. -/
def get? (name : String) : Json → Option Json
  | .obj fields => lookup name fields
  | _ => none

theorem lookup_insertField_self (name : String) (value : Json) (fields : List (String × Json)) :
    lookup name (insertField name value fields) = some value := by
  induction fields with
  | nil => simp [insertField, lookup]
  | cons f rest ih =>
    obtain ⟨n, v⟩ := f
    rw [insertField]
    split
    · simp [lookup]
    · split
      · simp [lookup]
      · next different =>
        have : n ≠ name := fun h => different h.symm
        simp [lookup, this, ih]

theorem lookup_insertField_of_ne {name other : String} (h : other ≠ name) (value : Json)
    (fields : List (String × Json)) :
    lookup other (insertField name value fields) = lookup other fields := by
  induction fields with
  | nil => simp [insertField, lookup, h.symm]
  | cons f rest ih =>
    obtain ⟨n, v⟩ := f
    rw [insertField]
    split
    · simp [lookup, h.symm]
    · split
      · next same => subst same; simp [lookup, h.symm]
      · by_cases hn : n = other <;> simp [lookup, hn, ih]

/-- After setting a member, its name finds the new value and every other name finds what it found
before. -/
theorem lookup_insertField (name other : String) (value : Json) (fields : List (String × Json)) :
    lookup other (insertField name value fields) =
      if other = name then some value else lookup other fields := by
  split
  · next h => subst h; exact lookup_insertField_self other value fields
  · next h => exact lookup_insertField_of_ne h value fields

end Json

end Lookout
