import Lookout.Decode.Record

/-!
# Chat list snapshot

The chats of a messenger, each with its last message and the number of unread ones.
-/

namespace Lookout.Snapshot

open Decode

/-- One chat of a list. -/
structure Chat where
  id : String
  title : String
  lastMessage : Option String
  unreadCount : UInt32
  updatedAt : Option String
deriving DecidableEq

/-- The chats of a messenger in the order of the server. -/
structure ChatList where
  chats : List Chat
deriving DecidableEq

/-- How a chat is read. -/
def Chat.record : Record Chat where
  name := "ChatSummary"
  initial := ⟨"", "", none, 0, none⟩
  fields := [
    .optional "id" [] readIdentifier fun i c => { c with id := i },
    .optional "title" ["name"] readText fun t c => { c with title := t },
    .optional "last_message" ["lastMessage"] (readOptional readText) fun m c =>
      { c with lastMessage := m },
    .optional "unread_count" ["unreadCount", "unread"] readUInt32 fun n c =>
      { c with unreadCount := n },
    .optional "updated_at" ["updatedAt"] (readOptional readText) fun t c => { c with updatedAt := t }]

/-- How a chat list is read. -/
def ChatList.record : Record ChatList where
  name := "ChatListSnapshot"
  initial := ⟨[]⟩
  fields := [
    .optional "chats" [] (readOrDefault [] (readList Chat.record.read)) fun c l =>
      { l with chats := c }]

/-- Reads the chats from a snapshot. -/
def ChatList.read : Reader ChatList := ChatList.record.read

end Lookout.Snapshot
