import Lookout.Config.Auth
import Lookout.Duration
import Lookout.Section

/-!
# Configurations

What the user may set: the server and how to reach it, the title, the first page, how long
notifications stay, and for each page what differs from its built-in definition.
-/

namespace Lookout

/-- The server: its URL, how requests authenticate and how many seconds each may take. -/
structure ApiSettings where
  url : String
  auth : Auth
  timeoutSecs : UInt64

/-- What the user sets for one page: for a built-in page the differences, for any other page its
definition. -/
structure PageSettings where
  title : Option String
  key : Option String
  intervalSecs : Option UInt64
  revalidateDelayMs : Option UInt64
  maxBackoffSecs : Option UInt64
  sections : Option (List Section)
  threadPath : Option String
  threadIntervalSecs : Option UInt64

/-- A configuration; the pages are sorted by name. -/
structure Config where
  api : ApiSettings
  title : Option String
  defaultPage : Option String
  notificationSecs : UInt64
  pages : List (String × PageSettings)

/-- No settings. -/
def PageSettings.none : PageSettings :=
  ⟨.none, .none, .none, .none, .none, .none, .none, .none⟩

namespace Config

/-- How many seconds a request may take if nothing is set. -/
def defaultTimeoutSecs : UInt64 := 20

/-- How many seconds notifications stay if nothing is set. -/
def defaultNotificationSecs : UInt64 := 4

/-- How long notifications stay. -/
def notificationTime (c : Config) : Duration := .ofSecs c.notificationSecs.toNat

/-- How long a request may take. -/
def timeout (c : Config) : Duration := .ofSecs c.api.timeoutSecs.toNat

/-- The settings for a page. -/
def page? (c : Config) (name : String) : Option PageSettings :=
  (c.pages.find? (·.1 = name)).map (·.2)

end Config

end Lookout
