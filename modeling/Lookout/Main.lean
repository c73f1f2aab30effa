import Lookout.App.Draw
import Lookout.Client.Basic
import Lookout.CommandLine.Read
import Lookout.Config.Load

/-!
# The program on the command line

Reads the command line and the configuration and prints the picture with which the program starts. This
is the only module that reads files and prints.
-/

namespace Lookout.CommandLine

/-- What a path leads to on this machine. -/
def lookUp (path : String) : IO (Option Stored) := do
  try
    return some (.text (← IO.FS.readFile path))
  catch
    | .noFileOrDirectory _ _ _ => return none
    | _ => return some .directory

/-- The directory for settings. -/
def settingsHome : IO (Option String) := do
  match ← IO.getEnv "XDG_CONFIG_HOME" with
  | some home => return some home
  | none => return (← IO.getEnv "HOME").map (· ++ "/.config")

/-- The credentials in the environment. -/
def credentialVariables : IO Credentials.Environment := do
  let mut found := []
  for name in [Credentials.tokenVariable, Credentials.passwordVariable] do
    if let some value ← IO.getEnv name then
      found := found ++ [(name, value)]
  return found

/-- Loads the configuration. -/
def loadConfig (explicit : Option String) : IO (Except Config.LoadError Config) := do
  let home ← settingsHome
  let paths := explicit.toList ++ Config.localPath :: home.toList.map Config.homePath
  let found ← paths.mapM fun path => return (path, ← lookUp path)
  return Config.load (fun path => (found.lookup path).join) home explicit

/-- The picture with which the program starts, before anything has been fetched. -/
def firstPicture (config : Config) (page : Option String) : Except DrawFault Canvas :=
  let unreachable : Servers := fun path _ => ⟨0, .error (.http path 404)⟩
  let world := World.start 0 config.api.url Cache.Storage.empty unreachable
  ((App.start config world page).draw 80 24).map (·.2)

/-- Starts the program. -/
def start (a : Arguments) : IO UInt32 := do
  match ← loadConfig a.config with
  | .error e =>
    IO.eprintln s!"Error: {e.message}"
    return 1
  | .ok config =>
    let secrets ← credentialVariables
    match Client.new secrets config.api.url config.api.auth config.api.timeoutSecs.toNat with
    | .error e =>
      IO.eprintln s!"Error: {e.message}"
      return 1
    | .ok _ =>
      if let .ok picture := firstPicture config a.page then
        picture.text.forM fun row => IO.println (String.ofList row)
      return 0

end Lookout.CommandLine

/-- Runs the program with the arguments of the command line. -/
def main (arguments : List String) : IO UInt32 := do
  match Lookout.CommandLine.read arguments with
  | .ok a => Lookout.CommandLine.start a
  | .error reply =>
    if reply.exitCode = 0 then IO.print reply.message else IO.eprint reply.message
    return UInt32.ofNat reply.exitCode
