import ChatFlow.Json.Access
import ChatFlow.Text.Quoted

/-!
# The account messages are sent from, and what they look like on the way

The address and the credentials of an account, and the payloads of the three kinds of messages:
plain text, text with reply buttons, and a list to choose from.
-/

namespace ChatFlow.Graph

def standardUrl : String := "https://graph.facebook.com/v18.0"

/-- An account. What is not configured is shown as `None`. -/
structure Account where
  token : Option String
  phoneNumberId : Option String
  baseUrl : String := standardUrl
  deriving DecidableEq, Repr

namespace Account

def url (a : Account) : String :=
  let base := String.ofList (a.baseUrl.toList.reverse.dropWhile (· == '/')).reverse
  base ++ "/" ++ Text.shown a.phoneNumberId ++ "/messages"

def authorization (a : Account) : String := "Bearer " ++ Text.shown a.token

end Account

def standardRecipient : String := "individual"

structure Recipient where
  phone : String
  kind : String := standardRecipient
  deriving DecidableEq, Repr

def envelope (recipient : Recipient) (type : String) (content : Json) : Json := .obj [
  ("messaging_product", .str "whatsapp"),
  ("recipient_type", .str recipient.kind),
  ("to", .str recipient.phone),
  ("type", .str type),
  (type, content)]

def textPayload (recipient : Recipient) (text : String) (preview : Bool := false) : Json :=
  envelope recipient "text" (.obj [("preview_url", .bool preview), ("body", .str text)])

def interactivePayload (recipient : Recipient) (interactive : Json) : Json :=
  envelope recipient "interactive" interactive

structure Button where
  id : Json
  title : Json

def maxReplyButtons : Nat := 3

/-- Read a button; it has to have an id and a title. -/
def Button.ofJson : Json → Except Fault Button
  | .obj fields => match Assoc.get? fields "id", Assoc.get? fields "title" with
    | some id, some title => .ok ⟨id, title⟩
    | _, _ => .error .missingKey
  | _ => .error .wrongKind

def Button.toJson (b : Button) : Json :=
  .obj [("type", .str "reply"), ("reply", .obj [("id", b.id), ("title", b.title)])]

/-- A text with reply buttons below it and perhaps a header above it. -/
def buttonsContent (text : String) (buttons : List Button) (header : Option String) : Json :=
  .obj ([
    ("type", .str "button"),
    ("body", .obj [("text", .str text)]),
    ("action", .obj [("buttons", .arr (buttons.map (·.toJson)))])] ++
    match header.filter (! ·.isEmpty) with
    | some h => [("header", .obj [("type", .str "text"), ("text", .str h)])]
    | none => [])

end ChatFlow.Graph
