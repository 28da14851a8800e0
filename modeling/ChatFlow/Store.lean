import ChatFlow.Archive
import ChatFlow.Json.Writer

/-!
# Messages in memory

The archive of a running system. Every conversation has its messages in the order in which they
came, and a summary: how many messages of the customer are unread, and what came last.
-/

namespace ChatFlow

structure Conversation where
  id : String
  customerName : String := "Unknown"
  createdAt : String
  updatedAt : String
  unread : Nat := 0
  lastMessage : Json := .str ""
  messages : List Record := []

namespace Conversation

def summary (c : Conversation) : Json := .obj [
  ("id", .str c.id), ("customer_phone", .str c.id), ("customer_name", .str c.customerName),
  ("channel", .str "whatsapp_meta"), ("status", .str "open"), ("created_at", .str c.createdAt),
  ("updated_at", .str c.updatedAt), ("unread_count", .int c.unread),
  ("last_message", c.lastMessage), ("last_message_time", .str c.updatedAt)]

/-- A message as it is stored: with an id, and with the time unless it brings one along. -/
def stored (c : Conversation) (now : String) (r : Record) : Record :=
  let id := ((r.get? "id").getD .null).ifEmpty (.str ("msg_" ++ toString c.messages.length))
  Assoc.putAll [("id", id), ("created_at", .str now)] (r.filter (·.1 != "id"))

def isFromCustomer (r : Record) : Bool := (r.get? "sender").any (·.text? == some "customer")

def add (c : Conversation) (now : String) (r : Record) (customerName : Option String) :
    Conversation :=
  { c with
    customerName := (customerName.filter (! ·.isEmpty)).getD c.customerName
    updatedAt := now
    unread := c.unread + if isFromCustomer r then 1 else 0
    lastMessage := (r.get? "content").getD (.str "")
    messages := c.messages ++ [c.stored now r] }

end Conversation

/-- All conversations, in the order of their first messages. -/
structure Store where
  conversations : Assoc Conversation := []

namespace Store

/-- A conversation, new if there is none yet. -/
def find (s : Store) (now id : String) : Conversation :=
  (s.conversations.get? id).getD { id, createdAt := now, updatedAt := now }

def append (s : Store) (now id : String) (r : Record) (customerName : Option String) : Store :=
  { s with conversations := s.conversations.put id ((s.find now id).add now r customerName) }

/-- The conversations, the most recently updated first. -/
def latestFirst (s : Store) : List Conversation :=
  (s.conversations.map (·.2)).mergeSort fun a b => decide (b.updatedAt ≤ a.updatedAt)

/-- The messages of a conversation; whoever reads them has read them all. -/
def read (s : Store) (id : String) : List Record × Store :=
  match s.conversations.get? id with
  | some c =>
    (c.messages, { s with conversations := s.conversations.put id { c with unread := 0 } })
  | none => ([], s)

/-- The store as an archive. It never fails. -/
def archive : Archive Store where
  append s now id r customerName :=
    (.ok (), [.plain .store .debug ("Stored " ++ ((r.get? "sender").getD (.str "unknown")).words ++
      " message for " ++ id)], s.append now id r customerName)
  conversations s := s.latestFirst.map (·.summary)
  messages := read

end Store

end ChatFlow
