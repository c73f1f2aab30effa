import Lookout.Config.Basic
import Lookout.Yaml.Read

/-!
# Reading configurations

The shape of a configuration file. A request needs time, so a timeout of no seconds is refused.

* **`ofText_timeout_pos`** — an accepted configuration gives every request some time.
-/

namespace Lookout

open Yaml Decode

/-! ## Authentication -/

/-- Reads the name of a kind of authentication. -/
def Auth.readKind : NodeReader Auth.Kind :=
  atNode fun _ node =>
    match node with
    | .scalar _ _ name =>
      match Auth.Kind.ofName name with
      | .ok kind => pure kind
      | .error what => mismatched what
    | node => mistyped "variant identifier" node

/-- The words for a member name beside a tag. -/
def Auth.memberName : String := "a type tag " ++ marked tagName ++ " or any other value"

/-- Splits the tag off the entries of a mapping. -/
def Auth.splitNodes (ctx : Context) :
    Option Auth.Kind → List (Node × Node) → Reads (Option Auth.Kind × List (Buffered × Buffered))
  | kind, [] => pure (kind, [])
  | kind, (key, value) :: rest => do
    present key
    match ← readBufferedWithin ctx.depth memberName ctx key with
    | .text "type" =>
      if kind.isSome then mismatched (.duplicateField tagName)
      else
        let kind ← readKind (ctx.behind key) value
        splitNodes ctx (some kind) rest
    | name =>
      let v ← readBufferedWithin ctx.depth "any value" (ctx.behind key) value
      let (kind, others) ← splitNodes ctx kind rest
      pure (kind, (name, v) :: others)

/-- Reads the kind of authentication and what stands beside it. -/
def Auth.readTagged : NodeReader (Auth.Kind × Buffered) :=
  atNode fun ctx node =>
    match node with
    | .scalar p style text =>
      if (localTag? p.tag).isSome then mismatched (.wrongType .enumeration expectation)
      else mistyped expectation (.scalar p style text)
    | .sequence p items =>
      if (localTag? p.tag).isSome then mismatched (.wrongType .enumeration expectation)
      else do
        let ctx ← ctx.deeper p.mark
        match items with
        | [] => mismatched (.missingField tagName)
        | first :: rest =>
          present first
          let kind ← readKind (ctx.item 0) first
          let others ← readItems (readBufferedWithin ctx.depth "any value") ctx 1 rest
          pure (kind, .list others)
    | .mapping p entries =>
      if (localTag? p.tag).isSome then mismatched (.wrongType .enumeration expectation)
      else do
        let ctx ← ctx.deeper p.mark
        match ← splitNodes ctx Option.none entries with
        | (some kind, others) => pure (kind, .map others)
        | (Option.none, _) => mismatched (.missingField tagName)
    | node => mistyped expectation node

/-- Reads how requests authenticate. -/
def Auth.readNode : NodeReader Auth := fun ctx node => do
  let (kind, content) ← readTagged ctx node
  match ofKind kind content with
  | .ok auth => pure auth
  | .error what => mismatched what

/-! ## Sections -/

/-- Reads a node that stands for nothing. -/
def readNothing : NodeReader Unit :=
  atNode fun _ node =>
    match node with
    | .scalar p style text =>
      if style = .plain && (text.isEmpty || isNull text) then pure ()
      else mistyped "unit" (.scalar p style text)
    | .absent _ => pure ()
    | node => mistyped "unit" node

/-- The words for a tag that names a choice. -/
def choiceTag : String := "a YAML tag starting with '!'"

/-- A named method, where the name belongs to a node around. -/
def Section.methodNamed (name : String) : Reads Method :=
  match Method.ofName name with
  | .ok m => pure m
  | .error what => mismatched what

/-- Reads a method that is not an alias: the scalar that names it, or a tag that names it in front of
nothing. -/
def Section.readMethodNode : NodeReader Method := fun ctx node =>
  match node with
  | .scalar p _ text =>
    match localTag? p.tag with
    | none => located p.mark ctx.path (methodNamed text)
    | some name => do
      let m ← methodNamed name
      readNothing ctx node
      pure m
  | .sequence p _ =>
    match localTag? p.tag with
    | none => located p.mark ctx.path (mismatched (.wrongType .sequence choiceTag))
    | some name => do
      let m ← methodNamed name
      readNothing ctx node
      pure m
  | .mapping p _ =>
    match localTag? p.tag with
    | none => located p.mark ctx.path (mismatched (.wrongType .map choiceTag))
    | some name => do
      let m ← methodNamed name
      readNothing ctx node
      pure m
  | .cut e => throw (.brokenText e)
  | .alias _ _ | .absent _ => throw .noValue

/-- Reads a method. -/
def Section.readMethodName : NodeReader Method := fun ctx node =>
  match node with
  | .alias mark number => located mark ctx.path do readMethodNode ctx (← follow ctx number)
  | node => readMethodNode ctx node

/-- Reads a section. -/
def Section.readNode : NodeReader Section :=
  readRecord "Section" [
    .mandatory "name" readText fun n s => { s with name := n },
    .mandatory "path" readText fun p s => { s with path := p },
    .optional "method" readMethodName fun m s => { s with method := m },
    .optional "body" (Yaml.readOptional readJson) fun b s => { s with body := b },
    .optional "optional" Yaml.readBool fun o s => { s with isOptional := o }]
    ⟨"", "", .get, none, false⟩

/-! ## The whole file -/

/-- Reads the settings for a page. -/
def PageSettings.read : NodeReader PageSettings :=
  readRecord "ResourceOverride" [
    .optional "title" (Yaml.readOptional readText) fun t s => { s with title := t },
    .optional "key" (Yaml.readOptional readText) fun k s => { s with key := k },
    .optional "interval_secs" (Yaml.readOptional readUInt64) fun n s => { s with intervalSecs := n },
    .optional "revalidate_delay_ms" (Yaml.readOptional readUInt64) fun n s =>
      { s with revalidateDelayMs := n },
    .optional "max_backoff_secs" (Yaml.readOptional readUInt64) fun n s =>
      { s with maxBackoffSecs := n },
    .optional "sections" (Yaml.readOptional (Yaml.readList Section.readNode)) fun l s =>
      { s with sections := l },
    .optional "thread_path" (Yaml.readOptional readText) fun p s => { s with threadPath := p },
    .optional "thread_interval_secs" (Yaml.readOptional readUInt64) fun n s =>
      { s with threadIntervalSecs := n }]
    PageSettings.none

/-- Reads the settings for the server. -/
def ApiSettings.read : NodeReader ApiSettings :=
  readRecord "ApiConfig" [
    .mandatory "url" readText fun u s => { s with url := u },
    .optional "auth" Auth.readNode fun a s => { s with auth := a },
    .optional "timeout_secs" readUInt64 fun n s => { s with timeoutSecs := n }]
    ⟨"", .none, Config.defaultTimeoutSecs⟩

/-- Reads how many seconds notifications stay. -/
def Config.readNotificationSecs : NodeReader UInt64 :=
  readRecord "NotificationsConfig" [.optional "ttl_secs" readUInt64 fun n _ => n]
    defaultNotificationSecs

/-- Reads a configuration. -/
def Config.read : NodeReader Config :=
  readRecord "Config" [
    .mandatory "api" ApiSettings.read fun a c => { c with api := a },
    .optional "title" (Yaml.readOptional readText) fun t c => { c with title := t },
    .optional "default_page" (Yaml.readOptional readText) fun p c => { c with defaultPage := p },
    .optional "notifications" readNotificationSecs fun n c => { c with notificationSecs := n },
    .optional "resources" (readDictionary PageSettings.read) fun l c => { c with pages := l }]
    ⟨⟨"", .none, defaultTimeoutSecs⟩, none, none, defaultNotificationSecs, []⟩

/-- Why a text is no configuration. -/
inductive ConfigError
  | unreadable (error : ReadError)
  | noTimeout
deriving DecidableEq

/-- The text of an error. -/
def ConfigError.message : ConfigError → String
  | .unreadable error => error.message
  | .noTimeout => "api.timeout_secs must be greater than zero"

/-- The configuration that a text holds. -/
def Config.ofText (text : String) : Except ConfigError Config :=
  match readDocument Config.read text with
  | .error e => .error (.unreadable e)
  | .ok c => if c.api.timeoutSecs = 0 then .error .noTimeout else .ok c

/-- An accepted configuration gives every request some time. -/
theorem Config.ofText_timeout_pos {text : String} {c : Config} (h : Config.ofText text = .ok c) :
    c.api.timeoutSecs ≠ 0 := by
  unfold Config.ofText at h
  split at h
  · cases h
  · split at h
    · cases h
    · next nonzero => cases h; exact nonzero

/-- What can be told of the configuration in a text is told of an accepted one. -/
theorem Config.exists_of_any {text : String} {test : Config → Bool}
    (h : (Config.ofText text).toOption.any test = true) :
    ∃ c, Config.ofText text = .ok c ∧ test c = true := by
  cases hread : Config.ofText text with
  | error e => simp [hread, Except.toOption] at h
  | ok c => exact ⟨c, rfl, by simpa [hread, Except.toOption] using h⟩

end Lookout
