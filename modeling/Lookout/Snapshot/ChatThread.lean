import Lookout.Decode.Record

/-!
# Chat thread snapshot

The messages of one chat, oldest first.
-/

namespace Lookout.Snapshot

open Decode

/-- One message of a chat. -/
structure Message where
  id : String
  author : Option String
  text : String
  createdAt : Option String
  outgoing : Bool
deriving DecidableEq

/-- The messages of one chat in the order of the server. -/
structure ChatThread where
  messages : List Message
deriving DecidableEq

/-- How a message is read. -/
def Message.record : Record Message where
  name := "ChatMessage"
  initial := ⟨"", none, "", none, false⟩
  fields := [
    .optional "id" [] readIdentifier fun i m => { m with id := i },
    .optional "author" ["from", "sender"] (readOptional readText) fun a m => { m with author := a },
    .optional "text" ["content", "body"] readText fun t m => { m with text := t },
    .optional "created_at" ["createdAt"] (readOptional readText) fun t m => { m with createdAt := t },
    .optional "outgoing" ["isOutgoing"] readBool fun o m => { m with outgoing := o }]

/-- How a thread is read. -/
def ChatThread.record : Record ChatThread where
  name := "ChatThreadSnapshot"
  initial := ⟨[]⟩
  fields := [
    .optional "messages" [] (readOrDefault [] (readList Message.record.read)) fun m t =>
      { t with messages := m }]

/-- Reads the messages from a snapshot. -/
def ChatThread.read : Reader ChatThread := ChatThread.record.read

end Lookout.Snapshot
