import Lookout.Fetch.Policy
import Lookout.Section
import Lookout.Url.PathSegment

/-!
# Resources

What a page shows and where it comes from: its name and title, how its data is drawn, when the data is
fetched and from which endpoints. A list of chats also has a template for the messages of one chat.
-/

namespace Lookout

/-- How the data of a page is drawn. -/
inductive PageKind
  | hosting
  | chatList
  | chatThread
  | generic
deriving DecidableEq, Inhabited

/-- Where the messages of one chat come from: a path with a place for its identifier. -/
structure ThreadTemplate where
  path : String
  interval : Duration
deriving DecidableEq

/-- What a page shows and where it comes from. -/
structure Resource where
  name : String
  title : String
  kind : PageKind
  policy : Fetch.Policy
  sections : List Section
  thread : Option ThreadTemplate
deriving Inhabited

namespace Resource

/-- A resource whose data is fetched again after a number of seconds. -/
def new (name title : String) (kind : PageKind) (key : String) (intervalSecs : Nat)
    (sections : List Section) (thread : Option ThreadTemplate) : Resource :=
  ⟨name, title, kind, .every key (.ofSecs intervalSecs), sections, thread⟩

/-- The template with every place for an identifier filled. -/
def fillTemplate (segment : List Char) : List Char → List Char
  | '\x7b' :: 'i' :: 'd' :: '\x7d' :: rest => segment ++ fillTemplate segment rest
  | c :: rest => c :: fillTemplate segment rest
  | [] => []

/-- The resource of one chat of a list. The identifier comes from the server; it is written as one path
segment wherever the template has a place for it. -/
def threadFor (r : Resource) (id title : String) : Option Resource :=
  r.thread.map fun template =>
    let path := fillTemplate (Url.encodeSegment id.toList) template.path.toList
    { name := r.name
      title := title
      kind := .chatThread
      policy := { r.policy with
        key := r.policy.key ++ ":" ++ id
        interval := .ofSecs template.interval.secs }
      sections := [.get "messages" (String.ofList path)]
      thread := none }

end Resource

end Lookout
