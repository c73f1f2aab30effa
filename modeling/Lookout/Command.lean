import Lookout.Resource.Resolve
import Lookout.Text.Blank
import Lookout.Text.Lowercase
import Lookout.Text.Search

/-!
# Commands

What can be typed into the palette: a command for every page and one to leave. Suggestions are the
commands that a text occurs in, better matches first.

* **`suggestions_of_blank`** — without a text every command is suggested.
-/

namespace Lookout

/-- A command with the other names that it answers to. -/
structure Command where
  name : String
  aliases : List String
  description : String
deriving DecidableEq, Inhabited

namespace Command

/-- The command that leaves the program. -/
def quit : Command := ⟨"quit", ["q", "exit"], "Exit agency-dash"⟩

/-- The commands of the built-in pages. -/
def builtin : List Command := [
  ⟨"hosting", ["h", "servers"], "Servers, costs and projects"⟩,
  ⟨"avito", ["a"], "Avito messenger chats"⟩,
  ⟨"chats", ["c", "messages"], "Internal chats"⟩]

/-- The command that opens a page. -/
def ofResource (r : Resource) : Command :=
  match builtin.find? (·.name = r.name) with
  | some c => c
  | none => ⟨r.name, [], r.title⟩

/-- The commands for all pages, and the one to leave. -/
def all (resources : List Resource) : List Command := resources.map ofResource ++ [quit]

/-- How well a text matches a command, the best match being zero: it is the name or an alias, starts
one, or stands in one. -/
def rank? (text : List Char) (c : Command) : Option Nat :=
  let names (test : List Char → Bool) : Bool := test c.name.toList
  let aliases (test : List Char → Bool) : Bool := c.aliases.any fun a => test a.toList
  if names (· = text) then some 0
  else if aliases (· = text) then some 1
  else if names (text.isPrefixOf ·) then some 2
  else if aliases (text.isPrefixOf ·) then some 3
  else if names (Text.isWithin text) then some 4
  else if aliases (Text.isWithin text) then some 5
  else none

/-- The text that commands are compared with: without blanks around it and in lower case. -/
def normalized (input : String) : List Char := Text.lowercase (Text.trim input.toList)

/-- The commands that a text may mean, better matches first and otherwise in their order. -/
def suggestions (commands : List Command) (input : String) : List Command :=
  let text := normalized input
  if text.isEmpty then commands
  else (List.range 6).flatMap fun n => commands.filter fun c => c.rank? text = some n

/-- Without a text every command is suggested. -/
theorem suggestions_of_blank {input : String} (h : normalized input = []) (commands : List Command) :
    suggestions commands input = commands := by
  simp [suggestions, h]

end Command

end Lookout
