import Lookout.Input.Key
import Lookout.Resource.Basic
import Lookout.Screen.Chrome

/-!
# What pages ask for

A key on a page may ask the program for something that the page cannot do itself.
-/

namespace Lookout

/-- What a page asks for: nothing, newer data, to go back, or to open the page of a resource. -/
inductive PageAction
  | none
  | refresh
  | back
  | visit (r : Resource)

/-- The shortcuts of a page: those of every page with `own` among them. -/
def pageShortcuts (own : List Shortcut) : List Shortcut :=
  [{ key := ":", label := "command", priority := 10 }] ++ own ++
    [{ key := "r", label := "refresh", priority := 20 },
      { key := "x", label := "dismiss", priority := 80 },
      { key := "q", label := "back", priority := 90 }]

/-- The shortcut that opens the filter. -/
def filterShortcut : Shortcut := { key := "/", label := "filter", priority := 15 }

end Lookout
