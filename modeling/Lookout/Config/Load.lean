import Lookout.Config.Read
import Lookout.Files

/-!
# Finding the configuration

A path that the user gives is the only one tried. Without one the working directory comes first and the
directory for settings second.

* **`load_of_explicit_missing`** — a given path that leads nowhere is an error, whatever else there is.
-/

namespace Lookout.Config

/-- Why no configuration was loaded. -/
inductive LoadError
  | missing (path : String)
  | nothingFound
  | unreadable (path : String)
  | refused (path : String) (error : ConfigError)

/-- The text of an error. -/
def LoadError.message : LoadError → String
  | .missing path => "Config file not found: " ++ path
  | .nothingFound =>
    "No configuration file found. Create one at ~/.config/agency-dash/config.yaml\n" ++
      "See config.example.yaml for the format."
  | .unreadable path =>
    "Failed to read config file " ++ path ++ ": Is a directory (os error 21)"
  | .refused path error => "Failed to parse config file " ++ path ++ ": " ++ error.message

/-- The file that is tried in the working directory. -/
def localPath : String := "agency-dash.yaml"

/-- The file that is tried in the directory for settings. -/
def homePath (home : String) : String :=
  (if home.endsWith "/" then home else home ++ "/") ++ "agency-dash/config.yaml"

/-- The configuration in what a path leads to. -/
def ofStored (path : String) : Stored → Except LoadError Config
  | .directory => .error (.unreadable path)
  | .text content =>
    match ofText content with
    | .ok c => .ok c
    | .error e => .error (.refused path e)

/-- The first of several paths that leads somewhere, with what it leads to. -/
def firstStored (stored? : String → Option Stored) : List String → Option (String × Stored)
  | [] => none
  | path :: rest =>
    match stored? path with
    | some s => some (path, s)
    | none => firstStored stored? rest

/-- Loads the configuration, where `stored?` tells what a path leads to. -/
def load (stored? : String → Option Stored) (home : Option String) (explicit : Option String) :
    Except LoadError Config :=
  match explicit with
  | some path =>
    match stored? path with
    | some s => ofStored path s
    | none => .error (.missing path)
  | none =>
    match firstStored stored? (localPath :: home.toList.map homePath) with
    | some (path, s) => ofStored path s
    | none => .error .nothingFound

/-- A given path that leads nowhere is an error, whatever else there is. -/
theorem load_of_explicit_missing {stored? : String → Option Stored} {path : String}
    (h : stored? path = none) (home : Option String) :
    load stored? home (some path) = .error (.missing path) := by
  simp [load, h]

end Lookout.Config
