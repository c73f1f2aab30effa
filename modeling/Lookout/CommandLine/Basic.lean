import Lookout.Text.Fit

/-!
# The command line

The flags that the program is started with, and the texts that answer a command line on which it does not
start.

* **`exitCode_eq_zero_iff`** — only a wish for help or for the version is no error.
-/

namespace Lookout.CommandLine

/-- The name of the program. -/
def program : String := "agency-dash"

/-- The version of the program. -/
def version : String := "0.1.0"

/-- What the program is for. -/
def purpose : String :=
  "A terminal dashboard for the agency CRM, served from cache and refreshed in the background"

/-- A flag. -/
inductive Flag
  | config
  | page
  | noCache
  | logFile
  | help
  | version
deriving DecidableEq, Inhabited

namespace Flag

/-- The flags in the order of the help text. -/
def all : List Flag := [.config, .page, .noCache, .logFile, .help, .version]

/-- The name after two dashes. -/
def long : Flag → String
  | .config => "config"
  | .page => "page"
  | .noCache => "no-cache"
  | .logFile => "log-file"
  | .help => "help"
  | .version => "version"

/-- The letter after one dash. -/
def short? : Flag → Option Char
  | .config => some 'c'
  | .page => some 'p'
  | .noCache => none
  | .logFile => none
  | .help => some 'h'
  | .version => some 'V'

/-- What the value of the flag is called, if it takes one. -/
def value? : Flag → Option String
  | .config => some "CONFIG"
  | .page => some "PAGE"
  | .logFile => some "LOG_FILE"
  | .noCache | .help | .version => none

/-- The value is a path, which cannot be empty. -/
def isPath : Flag → Bool
  | .config | .logFile => true
  | .page | .noCache | .help | .version => false

/-- What the flag does. -/
def about : Flag → String
  | .config => "Path to config file (default: $XDG_CONFIG_HOME/agency-dash/config.yaml)"
  | .page => "Page to open on startup (hosting, avito, chats or a configured resource)"
  | .noCache => "Keep the cache in memory only; nothing is read from or written to disk"
  | .logFile => "Log file (default: $XDG_DATA_HOME/agency-dash/agency-dash.log)"
  | .help => "Print help"
  | .version => "Print version"

/-- The flag with what its value is called. -/
def shown (f : Flag) : String :=
  "--" ++ f.long ++ match f.value? with
    | some name => " <" ++ name ++ ">"
    | none => ""

/-- The flag in the help text: its letter and its name. -/
def entry (f : Flag) : String :=
  (match f.short? with
    | some c => "-" ++ c.toString ++ ", "
    | none => "    ") ++ f.shown

end Flag

/-- What a command line says. -/
structure Arguments where
  config : Option String
  page : Option String
  noCache : Bool
  logFile : Option String
deriving DecidableEq, Inhabited

/-- Why the program does not start: help or the version was asked for, a flag has no value, was given
twice, or has a value that it does not take, or an argument is unknown. An error may show the flags
`given` before, and a flag that the argument is `similar` to. -/
inductive Reply
  | help
  | version
  | valueMissing (f : Flag)
  | repeated (f : Flag)
  | valueUnwanted (f : Flag) (value : String) (given : List Flag)
  | unknown (argument : String) (similar : Option Flag) (given : List Flag)
deriving DecidableEq

/-- How the program is started, by example of some flags. -/
def usage (given : List Flag) : String :=
  let flags := if given.isEmpty then ["[OPTIONS]"] else given.map Flag.shown
  "Usage: " ++ " ".intercalate (program :: flags)

/-- The columns that the flags take in the help text. -/
def entryColumns : Nat := (Flag.all.map fun f => f.entry.length).foldl max 0 + 2

/-- The line of a flag in the help text. -/
def helpLine (f : Flag) : String :=
  "  " ++ String.ofList (Text.padRight f.entry.toList entryColumns) ++ f.about ++ "\n"

/-- The help text. -/
def helpText : String :=
  purpose ++ "\n\n" ++ usage [] ++ "\n\nOptions:\n" ++ String.join (Flag.all.map helpLine)

namespace Reply

/-- The parts of the text of an error. -/
def parts : Reply → List String
  | .help | .version => []
  | .valueMissing f => ["a value is required for '" ++ f.shown ++ "' but none was supplied"]
  | .repeated f => ["the argument '" ++ f.shown ++ "' cannot be used multiple times", usage []]
  | .valueUnwanted f value given =>
    ["unexpected value '" ++ value ++ "' for '" ++ f.shown ++ "' found; no more were expected",
      usage given]
  | .unknown argument similar given =>
    ["unexpected argument '" ++ argument ++ "' found"] ++
      (similar.map fun f => "  tip: a similar argument exists: '--" ++ f.long ++ "'").toList ++
      [usage given]

/-- The text of a reply. -/
def message : Reply → String
  | .help => helpText
  | .version => program ++ " " ++ CommandLine.version ++ "\n"
  | r => "error: " ++ "\n\n".intercalate (r.parts ++ ["For more information, try '--help'.\n"])

/-- The code with which the program ends. -/
def exitCode : Reply → Nat
  | .help | .version => 0
  | .valueMissing _ | .repeated _ | .valueUnwanted _ _ _ | .unknown _ _ _ => 2

/-- Only a wish for help or for the version is no error. -/
theorem exitCode_eq_zero_iff (r : Reply) : r.exitCode = 0 ↔ r = .help ∨ r = .version := by
  cases r <;> simp [exitCode]

end Reply

end Lookout.CommandLine
