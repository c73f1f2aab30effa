import Lookout.Config.Basic
import Lookout.Resource.Basic

/-!
# Resolving resources

The pages of a configuration: the built-in ones with what the user changed, then those that the user
defined.

* **`resolve_timeout`** — every page uses the timeout of the configuration.
-/

namespace Lookout.Resource

/-- The pages that are there without any configuration. -/
def builtin : List Resource := [
  .new "hosting" "Hosting" .hosting "hosting-dashboard" 60
    [.get "stats" "hosting/stats", .get "servers" "hosting/servers",
      { Section.get "projects" "projects" with isOptional := true }] none,
  .new "avito" "Avito" .chatList "avito-chats" 30 [.get "chats" "avito/chats"]
    (some ⟨"avito/chats/\x7bid\x7d/messages", .ofSecs 5⟩),
  .new "chats" "Chats" .chatList "chats" 10 [.get "chats" "chats"]
    (some ⟨"chats/\x7bid\x7d/messages", .ofSecs 5⟩)]

/-- How often the messages of a chat are fetched if only their path is set. -/
def defaultThreadInterval : Duration := .ofSecs 5

/-- A number of seconds, at least one. -/
def atLeastOneSecond (n : UInt64) : Duration := .ofSecs (Nat.max n.toNat 1)

/-- The template after the settings for it. -/
def changeThread (s : PageSettings) (thread : Option ThreadTemplate) : Option ThreadTemplate :=
  let thread := match s.threadPath with
    | some path => some ⟨path, (thread.map (·.interval)).getD defaultThreadInterval⟩
    | none => thread
  match s.threadIntervalSecs with
  | some n => thread.map fun t => { t with interval := atLeastOneSecond n }
  | none => thread

/-- The policy after the settings for it. -/
def changePolicy (s : PageSettings) (p : Fetch.Policy) : Fetch.Policy where
  key := s.key.getD p.key
  interval := (s.intervalSecs.map atLeastOneSecond).getD p.interval
  revalidateDelay := (s.revalidateDelayMs.map fun n => .ofMillis n.toNat).getD p.revalidateDelay
  timeout := p.timeout
  maxBackoff := (s.maxBackoffSecs.map fun n => .ofSecs n.toNat).or p.maxBackoff

/-- The resource after the settings for it. -/
def change (s : PageSettings) (r : Resource) : Resource :=
  { r with
    title := s.title.getD r.title
    policy := changePolicy s r.policy
    sections := s.sections.getD r.sections
    thread := changeThread s r.thread }

/-- The resources after the settings for one name: they change the resource of that name, or define a
new one if they list its sections. -/
def addSettings (resources : List Resource) (entry : String × PageSettings) : List Resource :=
  let (name, s) := entry
  if resources.any (·.name = name) then
    resources.map fun r => if r.name = name then r.change s else r
  else if s.sections.isSome then
    resources ++ [(Resource.new name name .generic name 60 [] none).change s]
  else resources

/-- The resource with a timeout. -/
def withTimeout (timeout : Duration) (r : Resource) : Resource :=
  { r with policy := { r.policy with timeout := timeout } }

/-- The pages of a configuration. -/
def resolve (c : Config) : List Resource :=
  (c.pages.foldl addSettings builtin).map (withTimeout c.timeout)

/-- Every page uses the timeout of the configuration. -/
theorem resolve_timeout {c : Config} {r : Resource} (h : r ∈ resolve c) :
    r.policy.timeout = c.timeout := by
  obtain ⟨s, _, rfl⟩ := List.mem_map.1 h
  rfl

end Lookout.Resource
