/-!
# Files

A tree of directories and files by their names from the top, and how a path is found in it: step by
step, where every step but the last must lead to a directory.

* **`find?_top`** — the top is a directory.
-/

namespace Lookout

/-- What a path leads to. -/
inductive Stored
  | directory
  | text (content : String)
deriving DecidableEq

/-- The name of every file from the top with its content, and the directories that exist besides those
that hold them. -/
structure FileTree where
  files : List (List String × String)
  directories : List (List String)

namespace FileTree

/-- What is found under the names from the top. -/
def find? (t : FileTree) (names : List String) : Option Stored :=
  match t.files.find? (·.1 = names) with
  | some (_, content) => some (.text content)
  | none =>
    if names.isEmpty || t.directories.any (names.isPrefixOf ·) ||
        t.files.any (fun f => names.isPrefixOf f.1) then some .directory
    else none

/-- The top is a directory. -/
theorem find?_top (t : FileTree) (h : ∀ f ∈ t.files, f.1 ≠ []) : t.find? [] = some .directory := by
  have : t.files.find? (·.1 = []) = none := by
    simpa [List.find?_eq_none] using fun a b hab hnil => h (a, b) hab hnil
  simp [find?, this]

/-- The names that the steps of a path lead to from a place, if there is something. -/
def walk (t : FileTree) : List String → List String → Option (List String)
  | place, [] => some place
  | place, step :: rest =>
    if t.find? place ≠ some .directory then none
    else if step.isEmpty || step = "." then walk t place rest
    else if step = ".." then walk t place.dropLast rest
    else if (t.find? (place ++ [step])).isSome then walk t (place ++ [step]) rest
    else none

/-- What a path leads to, where a path that does not start with a slash starts at `place`. -/
def lookup (t : FileTree) (place : List String) (path : String) : Option Stored :=
  if path.isEmpty then none
  else
    let start := if path.startsWith "/" then [] else place
    (t.walk start (path.splitOn "/")).bind t.find?

end FileTree

end Lookout
