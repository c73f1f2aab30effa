import Lookout.Cache.Entry
import Lookout.Fetch.Failure
import Lookout.Section

/-!
# Fetch outcomes

Why a fetch is made, how the answers of its sections become one snapshot, and what a page gets of it.

* **`merge_required_failure`** — the failure of a required section is the failure of the fetch.
-/

namespace Lookout.Fetch

/-- Why a fetch is made: the user waits for it, a page shown from the cache is checked, or the time has
come. -/
inductive Mode
  | foreground
  | revalidate
  | background
deriving DecidableEq, Inhabited, Repr

/-- The page shows that it is loading. -/
def Mode.showsLoading (m : Mode) : Bool := m = .foreground

/-- The user is told about a failure. -/
def Mode.notifiesFailure (m : Mode) : Bool := m ≠ .background

/-- Why a timer makes a fetch: the user waits for none of these. -/
abbrev QuietMode := { m : Mode // m ≠ .foreground }

/-- The check of a page shown from the cache. -/
def QuietMode.revalidate : QuietMode := ⟨.revalidate, by decide⟩

/-- The time has come. -/
def QuietMode.background : QuietMode := ⟨.background, by decide⟩

/-- What a page gets of a fetch. -/
structure Outcome where
  mode : Mode
  result : Except Failure Cache.Entry

/-- The value that a section had in the snapshot before; null if there is none. -/
def previousValue (previous : Option Json) (name : String) : Json :=
  ((previous.bind (Json.get? name)).getD .null)

/-- Adds the answers of sections to the members of a snapshot. A failing section that is optional keeps
the value it had before; a failing section that is required fails all. -/
def mergeInto (previous : Option Json) :
    List (String × Json) → List (Section × Except Failure Json) → Except Failure (List (String × Json))
  | fields, [] => .ok fields
  | fields, (s, .ok v) :: rest => mergeInto previous (Json.insertField s.name v fields) rest
  | fields, (s, .error e) :: rest =>
    if s.isOptional then
      mergeInto previous (Json.insertField s.name (previousValue previous s.name) fields) rest
    else .error e

/-- The snapshot of the answers of all sections. -/
def merge (previous : Option Json) (answers : List (Section × Except Failure Json)) :
    Except Failure Json :=
  (mergeInto previous [] answers).map .obj

/-- The failure of a required section is the failure of the fetch. -/
theorem merge_required_failure (previous : Option Json) {s : Section} (required : s.isOptional = false)
    (e : Failure) (rest : List (Section × Except Failure Json)) :
    merge previous ((s, .error e) :: rest) = .error e := by
  simp [merge, mergeInto, required, Except.map]

end Lookout.Fetch
