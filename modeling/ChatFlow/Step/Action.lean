import ChatFlow.Schema.Record

/-!
# Actions

An action sends messages or notes a comment. An action of another kind does nothing.
-/

namespace ChatFlow.Step

open Schema

inductive ActionKind where
  | sendMessage
  | addComment
  | other (name : String)
  deriving DecidableEq, Repr

namespace ActionKind

def name : ActionKind → String
  | sendMessage => "send_message"
  | addComment => "add_comment"
  | other s => s

def ofName (s : String) : ActionKind :=
  if s = "send_message" then sendMessage else if s = "add_comment" then addComment else other s

theorem name_ofName (s : String) : (ofName s).name = s := by
  unfold ofName; split
  · simp_all [name]
  · split <;> simp_all [name]

end ActionKind

structure MessageText where
  text : Option String
  deriving DecidableEq, Repr

structure ActionItem where
  message : Option MessageText
  deriving DecidableEq, Repr

structure Action where
  kind : Option ActionKind
  items : List ActionItem
  comment : Option String
  deriving DecidableEq, Repr

def MessageText.decode : Decoder MessageText := record fun fields =>
  MessageText.mk <$> defaulted fields ["text"] none (nullable string)

def ActionItem.decode : Decoder ActionItem := record fun fields =>
  ActionItem.mk <$> defaulted fields ["message"] none (nullable MessageText.decode)

/-- The text that an item sends; an empty one is not sent. -/
def ActionItem.text? (i : ActionItem) : Option String :=
  (i.message.bind (·.text)).filter (! ·.isEmpty)

def Action.decode : Decoder Action := record fun fields =>
  Action.mk <$> defaulted fields ["type"] none
      (nullable fun v => (string v).map ActionKind.ofName)
    <*> defaulted fields ["payload"] [] (list ActionItem.decode)
    <*> defaulted fields ["comment"] none (nullable string)

end ChatFlow.Step
