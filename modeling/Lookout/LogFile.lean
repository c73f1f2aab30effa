import Lookout.Files

/-!
# Log files

The file that the log goes to: its directories are made as needed, step by step, and the file is made
in the last of them.

* **`isSome_split_iff`** — a path names a file exactly when its last part is a name.
-/

namespace Lookout.LogFile

/-- The parts of a path: a slash in front, a point in front, steps up, and names. -/
inductive Part
  | root
  | here
  | up
  | name (text : String)
deriving DecidableEq

/-- The parts of a path; empty parts are left out, and so are points except in front. -/
def parts (path : String) : List Part :=
  let steps := path.splitOn "/"
  let inner := steps.filterMap fun step =>
    if step.isEmpty || step = "." then none else if step = ".." then some .up else some (.name step)
  if path.startsWith "/" then .root :: inner
  else if steps.head? = some "." then .here :: inner
  else inner

/-- The directory and the name of the file that a path names, if its last part is a name. -/
def split (path : String) : Option (List Part × String) :=
  match (parts path).reverse with
  | .name text :: rest => some (rest.reverse, text)
  | _ => none

/-- A path names a file exactly when its last part is a name. -/
theorem isSome_split_iff (path : String) :
    (split path).isSome ↔ ∃ text, (parts path).getLast? = some (.name text) := by
  unfold split
  rw [List.getLast?_eq_head?_reverse]
  rcases (parts path).reverse with _ | ⟨part, rest⟩
  · simp
  · cases part <;> simp

/-- The file under the directory for data that is used if no path is given. -/
def defaultPath (dataHome : String) : String := dataHome ++ "/agency-dash/agency-dash.log"

/-- Why no log can be written. -/
inductive LogError
  | invalidPath (path : String)
  | alreadyInstalled
  | unusable
deriving DecidableEq

/-- The text of an error. -/
def LogError.message : LogError → String
  | .invalidPath path => "Invalid log file path: " ++ path
  | .alreadyInstalled =>
    "Failed to install log subscriber: a global default trace dispatcher has already been set"
  | .unusable => "initializing rolling file appender failed"

/-- Follows the parts of a path and makes the directories that are missing. There is no place any more
once the path has left the tree. -/
def makeDirectories (t : FileTree) : Option (List String) → List Part → FileTree × Option (List String)
  | place, [] => (t, place)
  | _, .root :: rest => makeDirectories t none rest
  | place, .here :: rest => makeDirectories t place rest
  | place, .up :: rest =>
    match place with
    | some (n :: ns) => makeDirectories t (some (n :: ns).dropLast) rest
    | _ => makeDirectories t none rest
  | place, .name text :: rest =>
    match place with
    | none => makeDirectories t none rest
    | some names =>
      let next := names ++ [text]
      makeDirectories { t with directories := next :: t.directories } (some next) rest

/-- Makes the log file of a path in an existing tree; returns the tree afterwards. -/
def create (t : FileTree) (path : String) : Except LogError FileTree :=
  match split path with
  | none => .error (.invalidPath path)
  | some (directory, name) =>
    match makeDirectories t (some []) directory with
    | (t, none) => .ok t
    | (t, some names) =>
      if t.find? (names ++ [name]) = some .directory then .error .unusable
      else .ok { t with files := (names ++ [name], "") :: t.files }

/-- Sets up the log while another one is already installed: the file is made, and then it fails. The
names of the files that are there afterwards are returned with the error. -/
def install (path : String) : LogError × List String :=
  match create ⟨[], []⟩ path with
  | .error e => (e, [])
  | .ok t =>
    let names := t.files.map fun f => "/".intercalate f.1
    (.alreadyInstalled, names.mergeSort (· ≤ ·))

end Lookout.LogFile
