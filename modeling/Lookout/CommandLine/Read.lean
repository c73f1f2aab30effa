import Lookout.CommandLine.Basic
import Lookout.Text.Similarity

/-!
# Reading a command line

The arguments are read one after the other. A flag that takes a value waits for it in the next argument; a
value that has come is stored when the next flag is read, so that some errors are found before others.

* **`read_page`** — a page is opened by name.
-/

namespace Lookout.CommandLine

/-- What has been read: the flags with their values, and the flag that waits for a value or whose value
has just come. -/
structure Progress where
  given : List (Flag × String)
  waiting : Option (Flag × Option String)
deriving DecidableEq, Inhabited

namespace Progress

/-- Nothing has been read. -/
def start : Progress := ⟨[], none⟩

/-- The flags that have been stored. -/
def flags (s : Progress) : List Flag := s.given.map (·.1)

/-- Stores a flag with its value. -/
def store (s : Progress) (f : Flag) (value : String) : Except Reply Progress :=
  if s.flags.contains f then .error (.repeated f)
  else if f.isPath && value.isEmpty then .error (.valueMissing f)
  else .ok { s with given := s.given ++ [(f, value)] }

/-- Stores the flag that is waiting. -/
def settle (s : Progress) : Except Reply Progress :=
  match s.waiting with
  | none => .ok s
  | some (f, none) => .error (.valueMissing f)
  | some (f, some value) => { s with waiting := none }.store f value

/-- The flags to show with an argument that is unknown. One whose value has just come is among them, but
not if it was given before. -/
def shownFlags (s : Progress) : List Flag :=
  match s.waiting with
  | some (f, some _) => if s.flags.contains f then s.flags.erase f else s.flags ++ [f]
  | _ => s.flags

/-- Reads a flag without a value. -/
def switch (s : Progress) (f : Flag) : Except Reply Progress :=
  match f with
  | .help => .error .help
  | .version => .error .version
  | f => s.store f ""

/-- Reads a flag with the value that is attached to it, if any. -/
def readFlag (s : Progress) (f : Flag) (value : Option String) : Except Reply Progress := do
  let s ← s.settle
  if f.value?.isSome then
    match value with
    | some value => s.store f value
    | none => .ok { s with waiting := some (f, none) }
  else s.switch f

end Progress

/-- The list with an item at its end, if it has none such. -/
def withFlag (flags : List Flag) (f : Flag) : List Flag :=
  if flags.contains f then flags else flags ++ [f]

/-- How alike a name and a flag must be for a hint. -/
def likeness : Binary64 := .ofRatio false 7 10

/-- The flag that a name is most similar to, the last one of several. -/
def similarFlag (name : List Char) : Option Flag :=
  (Flag.all.foldl (fun best f =>
    let here := Text.similarity name f.long.toList
    let least := (best.map (·.2)).getD likeness
    if Text.isLess least here || (best.isSome && !Text.isLess here least) then some (f, here)
    else best) (none : Option (Flag × Binary64))).map (·.1)

/-- Reads what stands after two dashes: a name, and a value after an equals sign. -/
def readLong (s : Progress) (cs : List Char) : Except Reply Progress :=
  let name := cs.takeWhile (· ≠ '=')
  let value : Option String := match cs.dropWhile (· ≠ '=') with
    | [] => none
    | _ :: value => some (String.ofList value)
  match Flag.all.find? (·.long.toList = name), value with
  | none, _ =>
    let similar := similarFlag name
    let given := match similar with
      | some f => withFlag s.shownFlags f
      | none => s.shownFlags
    .error (.unknown (String.ofList ('-' :: '-' :: name)) similar given)
  | some f, some value =>
    if f.value?.isSome then s.readFlag f (some value)
    else .error (.valueUnwanted f value (withFlag s.flags f))
  | some f, none => s.readFlag f none

/-- Reads what stands after one dash: letters of flags, the last of which may be followed by its value. -/
def readShort (s : Progress) : List Char → Except Reply Progress
  | [] => .ok s
  | c :: rest =>
    match Flag.all.find? (·.short? = some c) with
    | none => .error (.unknown (String.ofList ['-', c]) none [])
    | some f =>
      if f.value?.isSome then
        s.readFlag f (match rest with
          | [] => none
          | '=' :: value => some (String.ofList value)
          | value => some (String.ofList value))
      else
        match s.readFlag f none with
        | .ok s => readShort s rest
        | .error e => .error e

/-- Reads an argument. -/
def readArgument (s : Progress) (argument : String) : Except Reply Progress :=
  match argument.toList with
  | '-' :: '-' :: cs => readLong s cs
  | '-' :: c :: cs => readShort s (c :: cs)
  | _ =>
    match s.waiting with
    | some (f, none) => .ok { s with waiting := some (f, some argument) }
    | _ => .error (.unknown argument none [])

/-- Reads arguments. Two dashes alone end the flags; nothing may follow them. -/
def readArguments (s : Progress) : List String → Except Reply Progress
  | [] => s.settle
  | argument :: rest =>
    if argument = "--" then
      match rest with
      | [] => s.settle
      | extra :: _ => .error (.unknown extra none [])
    else
      match readArgument s argument with
      | .ok s => readArguments s rest
      | .error e => .error e

/-- What the flags with their values say. -/
def Progress.arguments (s : Progress) : Arguments where
  config := s.given.lookup .config
  page := s.given.lookup .page
  noCache := s.flags.contains .noCache
  logFile := s.given.lookup .logFile

/-- Reads a command line. -/
def read (arguments : List String) : Except Reply Arguments :=
  (readArguments .start arguments).map Progress.arguments

/-- A page is opened by name. -/
theorem read_page {name : String} (h : name.toList.head? ≠ some '-') :
    read ["--page", name] = .ok ⟨none, some name, false, none⟩ := by
  have dashes : name ≠ "--" := by
    rintro rfl
    exact h (by decide)
  have word : readArgument ⟨[], some (.page, none)⟩ name =
      .ok ⟨[], some (.page, some name)⟩ := by
    unfold readArgument
    split
    · next eq => simp [eq] at h
    · next eq => simp [eq] at h
    · rfl
  have first : readArgument .start "--page" = .ok ⟨[], some (.page, none)⟩ := rfl
  simp [read, readArguments, first, dashes, word, Progress.settle, Progress.store, Progress.flags,
    Flag.isPath, Except.map]
  rfl

end Lookout.CommandLine
