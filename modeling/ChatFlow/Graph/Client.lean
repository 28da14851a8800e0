import ChatFlow.Endpoint.Address
import ChatFlow.Endpoint.Reply
import ChatFlow.Graph.Account
import ChatFlow.Json.Writer
import ChatFlow.Log

/-!
# Sending messages

A client posts messages for an account. A message counts as sent if the answer has status 200;
otherwise the call fails with what the answer says about the reason. `messageId` finds the id that
a sent message was given.
-/

namespace ChatFlow.Graph

structure Post where
  url : Endpoint.Address
  authorization : String
  payload : Json

inductive Delivery where
  | answered (reply : Endpoint.Reply)
  | failed (reason : String)
  deriving DecidableEq, Repr

/-- How a provider is reached: it takes posts and answers them or not, and its answers are read with
some codecs. -/
structure Wire (κ : Type) where
  post : κ → Post → Delivery × κ
  codecs : Text.Codecs

/-- A client, with an account or without a provider at all. -/
inductive Client where
  | unavailable
  | account (a : Account)
  deriving DecidableEq, Repr

/-- The outcome of a call, what it logs, and the connection after it. -/
abbrev Sent (κ α : Type) := Except Fault α × List Log.Entry × κ

def note (level : Log.Level) (message : String) : List Log.Entry := [.plain .client level message]

/-- The code of a refusal because the recipient is not registered for tests. -/
def isUnregistered (code : Json) : Bool :=
  match code with
  | .int n => n == 131030
  | .float x => x == 131030
  | _ => false

/-- Why a message was refused, as the answer has it. -/
def refusal (data : Json) (what phone : String) : Fault × List Log.Entry :=
  match data.member "error" (.obj []) with
  | .error f => (f, [])
  | .ok (.obj info) =>
    let message := ((Assoc.get? info "message").getD (.str "Unknown error")).words
    let code := Assoc.get? info "code"
    (.undelivered message (code.getD (.str "unknown")).words,
      note .error <| if isUnregistered (code.getD .null) then
        "WhatsApp API Error " ++ Json.wordsOption code ++ ": recipient " ++ phone ++
          " is not in the allowed list"
      else
        "Failed to send " ++ what ++ " to " ++ phone ++ ": " ++ message ++ " (Code: " ++
          Json.wordsOption code ++ ")")
  | .ok _ => (.notObject, [])

/-- The data of an answer; a body that is no JSON is read as the text of an error. -/
def answerData (codecs : Text.Codecs) (reply : Endpoint.Reply) (bytes : List UInt8) :
    Except Fault Json :=
  reply.data codecs bytes fun s => .obj [("error", .obj [("message", .str s)])]

/-- Make the message for a payload, if it can be sent at all. A name and a password in the address
count more than the token. -/
def Post.ofPayload (a : Account) (payload : Json) : Except Fault Post := do
  let url ← Endpoint.Address.ofText a.url
  if a.authorization.toList.any (·.toNat ≥ 128) then throw .unencodable
  let _ ← payload.encode
  return ⟨url, url.authorization?.getD a.authorization, payload⟩

namespace Client

variable {κ : Type}

/-- What an answer says about a message. An address that names nobody cannot be answered. -/
def judge (codecs : Text.Codecs) (url : Endpoint.Address) (reply : Endpoint.Reply)
    (bytes : List UInt8) (what phone : String) : Except Fault Json × List Log.Entry :=
  if !url.isAbsolute then (.error .nobodyAddressed, [])
  else match answerData codecs reply bytes with
    | .error f => (.error f, [])
    | .ok data =>
      if reply.status = 200 then (.ok data, note .info ("Sent " ++ what ++ " to " ++ phone))
      else
        let (f, log) := refusal data what phone
        (.error f, log)

def deliver (c : Client) (w : Wire κ) (s : κ) (payload : Json) (what phone : String) :
    Sent κ Json :=
  let lost (reason : String) (s : κ) : Sent κ Json :=
    let message := "Exception sending " ++ what ++ " to " ++ phone ++ ": " ++ reason
    (.error (.undelivered message "transport"), note .error message, s)
  match c with
  | unavailable => (.error .unsupported, [], s)
  | account a => match Post.ofPayload a payload with
    | .error f => (.error f, [], s)
    | .ok post => match w.post s post with
      | (.failed reason, s) => lost reason s
      | (.answered reply, s) => match reply.bytes with
        | .error reason => lost reason s
        | .ok bytes =>
          let (result, log) := judge w.codecs post.url reply bytes what phone
          (result, log, s)

def sendText (c : Client) (w : Wire κ) (s : κ) (recipient : Recipient) (text : String)
    (preview : Bool := false) : Sent κ Json :=
  c.deliver w s (textPayload recipient text preview) "message" recipient.phone

def sendButtons (c : Client) (w : Wire κ) (s : κ) (recipient : Recipient) (text : String)
    (buttons : List Json) (header : Option String := none) : Sent κ Json :=
  if c = unavailable then (.error .unsupported, [], s)
  else if buttons.length > maxReplyButtons then
    (.error (.undelivered ("WhatsApp allows at most 3 reply buttons, got " ++
      toString buttons.length) "too_many_buttons"), [], s)
  else match buttons.mapM Button.ofJson with
    | .error f => (.error f, [], s)
    | .ok bs => c.deliver w s (interactivePayload recipient (buttonsContent text bs header))
        "interactive buttons" recipient.phone

def sendList (c : Client) (w : Wire κ) (s : κ) (recipient : Recipient) (interactive : Json) :
    Sent κ Json :=
  c.deliver w s (interactivePayload recipient interactive) "interactive list" recipient.phone

end Client

def messageId (answer : Json) : Except Fault Json := do
  let messages := (← answer.member "messages").ifEmpty (.arr [])
  match messages with
  | .obj _ => .error .missingKey
  | v => match ← v.itemAt? 0 with
    | some (.obj m) => return (Assoc.get? m "id").getD .null
    | _ => return .null

end ChatFlow.Graph
