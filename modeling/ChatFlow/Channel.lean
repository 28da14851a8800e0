import ChatFlow.Answer
import ChatFlow.Archive
import ChatFlow.Graph.Client
import ChatFlow.Turn.Basic

/-!
# The channel of the bot

The bot's messages go out through a client and are kept in an archive. A message that has gone out
is not taken back because it could not be kept; that is only logged.
-/

namespace ChatFlow

def Channel.standardName : String := "whatsapp_meta"

structure Channel (κ σ : Type) where
  client : Graph.Client
  wire : Graph.Wire κ
  archive : Archive σ
  name : String := Channel.standardName

namespace Channel

variable {κ σ : Type}

/-- What a channel acts upon: the connection, the kept messages, and the time for these. -/
structure World (κ σ : Type) where
  wire : κ
  records : σ
  now : String

/-- The outcome of a call, what it logs, and the world after it. -/
abbrev Sent (κ σ : Type) := Except Fault Json × List Log.Entry × World κ σ

def keep (c : Channel κ σ) (w : World κ σ) (recipient : String) (content id : Json) :
    List Log.Entry × World κ σ :=
  let record := outgoingRecord id "bot" recipient content c.name
  match c.archive.append w.records w.now recipient record none with
  | (.ok (), log, records) => (log, { w with records })
  | (.error f, log, records) =>
    (log ++ [.failure .channel (some recipient) "Error saving bot message" f], { w with records })

/-- Send a message and keep it. What is kept of it is only looked at after it was sent. -/
def dispatch (c : Channel κ σ) (w : World κ σ) (recipient : String)
    (send : Graph.Wire κ → κ → Graph.Sent κ Json) (content : Except Fault Json) : Sent κ σ :=
  match send c.wire w.wire with
  | (.error f, log, wire) => (.error f, log, { w with wire })
  | (.ok answer, log, wire) => match Graph.messageId answer, content with
    | .error f, _ => (.error f, log, { w with wire })
    | .ok _, .error f => (.error f, log, { w with wire })
    | .ok id, .ok content =>
      let (more, w) := c.keep { w with wire } recipient content id
      (.ok id, log ++ more, w)

def sendText (c : Channel κ σ) (w : World κ σ) (recipient text : String) : Sent κ σ :=
  c.dispatch w recipient (fun wire s => c.client.sendText wire s { phone := recipient } text)
    (.ok (.str text))

def optionButton (option : String) (i : Nat) : Json :=
  .obj [("id", .str ("opt_" ++ toString i)),
    ("title", .str (Text.clip Step.buttonTitleLength option))]

def sendOptions (c : Channel κ σ) (w : World κ σ) (recipient text : String)
    (options : List String) : Sent κ σ :=
  if options.isEmpty || options.length > Step.maxButtons then
    (.error (.unfit ("Reply buttons need 1 to " ++ toString Step.maxButtons ++ " options, got " ++
      toString options.length)), [], w)
  else
    let buttons := options.zipIdx.map fun (o, i) => optionButton o i
    c.dispatch w recipient
      (fun wire s => c.client.sendButtons wire s { phone := recipient } text buttons)
      (.ok (.str (text ++ "\n" ++ " | ".intercalate options)))

/-- What is kept of a list: the text above it. -/
def listText (interactive : Assoc Json) : Except Fault Json := do
  let body ← (Json.obj interactive).memberObject "body"
  return (← body.member "text").ifEmpty (.str "[Interactive List]")

def sendList (c : Channel κ σ) (w : World κ σ) (recipient : String) (interactive : Assoc Json) :
    Sent κ σ :=
  c.dispatch w recipient
    (fun wire s => c.client.sendList wire s { phone := recipient } (.obj interactive))
    (listText interactive)

def send (c : Channel κ σ) (w : World κ σ) (m : Outbound) : Sent κ σ :=
  match m.content with
  | .text text => c.sendText w m.recipient text
  | .buttons text options => c.sendOptions w m.recipient text options
  | .list interactive => c.sendList w m.recipient interactive

end Channel

end ChatFlow
