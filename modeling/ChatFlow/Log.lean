import ChatFlow.Fault

/-!
# Log entries

What the parts of the system report while they work. An entry knows which part wrote it and, inside
a conversation, which one; an entry about a failure carries its cause.
-/

namespace ChatFlow.Log

inductive Level where
  | debug
  | info
  | warning
  | error
  deriving DecidableEq, Repr

inductive Source where
  | workflow
  | session
  | interpreter
  | dispatcher
  | channel
  | client
  | store
  | inbox
  | agent
  deriving DecidableEq, Repr

structure Entry where
  source : Source
  level : Level
  conversation : Option String
  message : String
  cause : Option Fault
  deriving DecidableEq, Repr

def Entry.plain (source : Source) (level : Level) (message : String) : Entry :=
  ⟨source, level, none, message, none⟩

def Entry.within (source : Source) (level : Level) (conversation message : String) : Entry :=
  ⟨source, level, some conversation, message, none⟩

def Entry.failure (source : Source) (conversation : Option String) (message : String)
    (cause : Fault) : Entry :=
  ⟨source, .error, conversation, message, some cause⟩

end ChatFlow.Log
