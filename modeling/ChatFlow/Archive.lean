import ChatFlow.Json
import ChatFlow.Log

/-!
# Where messages are kept

An archive keeps the messages of every conversation, as far as it can: it may fail to, and one that
keeps nothing is an archive as well. Nothing else in the system depends on what it keeps.
-/

namespace ChatFlow

abbrev Record := Assoc Json

/-- The operations of an archive. Messages are kept under the time `now` at which they come. -/
structure Archive (σ : Type) where
  append : σ → (now conversation : String) → Record → (customerName : Option String) →
    Except Fault Unit × List Log.Entry × σ
  conversations : σ → List Json
  messages : σ → String → List Record × σ

def Archive.discard {σ : Type} : Archive σ where
  append s _ _ _ _ := (.ok (), [], s)
  conversations _ := []
  messages s _ := ([], s)

def outgoingRecord (id : Json) (sender recipient : String) (content : Json) (channel : String) :
    Record := [
  ("id", id), ("sender", .str sender), ("to", .str recipient), ("content", content),
  ("type", .str "text"), ("status", .str "sent"), ("channel", .str channel)]

end ChatFlow
