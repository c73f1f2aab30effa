import Lookout.Binding
import Lookout.Decode.Mismatch
import Lookout.Duration

/-!
# The content of a page

The snapshot of a page as the page understands it, decoded once for every outcome that is applied, and
what the page says about it: a heading, a text in place of the content, and how old the content is.

* **`placeholder?_eq_none_iff`** — a text stands in for the content exactly when nothing could be decoded.
-/

namespace Lookout

/-- The number of the binding of a page, its title, and its snapshot or what did not fit in it. -/
structure PageContent (α : Type) where
  binding : Nat
  title : String
  data : Option (Except Decode.Mismatch α)

namespace PageContent

variable {α : Type}

/-- What a page understands of the snapshot of a binding. -/
def decode (read : Json → Except Decode.Mismatch α) (b : Binding) :
    Option (Except Decode.Mismatch α) :=
  b.snapshot.map fun e => read e.payload

/-- The content of a page that has just been mounted. -/
def mounted (read : Json → Except Decode.Mismatch α) (n : Nat) (title : String) (b : Binding) :
    PageContent α :=
  ⟨n, title, decode read b⟩

/-- The content after outcomes have been applied to the binding. -/
def updated (p : PageContent α) (read : Json → Except Decode.Mismatch α) (b : Binding) :
    PageContent α :=
  { p with data := decode read b }

/-- The decoded snapshot. -/
def loaded? (p : PageContent α) : Option α :=
  match p.data with
  | some (.ok data) => some data
  | _ => none

/-- The heading: the title with the number of items, or what keeps them from being shown. -/
def heading (p : PageContent α) (b : Binding) (count : Option Nat) : String :=
  let state := match p.data, count with
    | some (.error _), _ => " (unexpected data)"
    | some (.ok _), some n => s!" ({n})"
    | some (.ok _), none => ""
    | none, _ =>
      if b.isLoading then " (loading...)"
      else if b.state = .errorVisible then " (error)"
      else ""
  let age :=
    if p.data.isSome then
      if b.isLoading then " refreshing..." else if b.error.isSome then " [stale]" else ""
    else ""
  " " ++ p.title ++ state ++ age ++ " "

/-- The text in place of the content. -/
def placeholder? (p : PageContent α) (b : Binding) : Option String :=
  match p.data with
  | some (.ok _) => none
  | some (.error e) => some ("Unexpected response shape: " ++ e.message .document)
  | none =>
    if b.isLoading then some "Loading..."
    else
      match b.error with
      | some e => some ("Failed to load " ++ p.title ++ ": " ++ e.message ++ "\n\nPress 'r' to retry.")
      | none => some "No data."

/-- A text stands in for the content exactly when nothing could be decoded. -/
theorem placeholder?_eq_none_iff (p : PageContent α) (b : Binding) :
    p.placeholder? b = none ↔ p.loaded?.isSome := by
  unfold placeholder? loaded?
  match h : p.data with
  | some (.ok _) => simp
  | some (.error _) => simp
  | none =>
    simp only [Option.isSome_none, Bool.false_eq_true, iff_false]
    split
    · simp
    · split <;> simp

end PageContent

/-- How long ago the snapshot of a binding was saved. -/
def Binding.freshness? (b : Binding) (now : Int) : Option String :=
  b.snapshot.map fun e => "updated " ++ (Duration.ofMillis (e.age now)).ageText ++ " ago"

end Lookout
