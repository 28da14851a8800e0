import ChatFlow.Archive
import ChatFlow.Graph.Client
import ChatFlow.Schema.Record
import ChatFlow.Text.Blank

/-!
# Messages of agents

An agent of the support team can write to a customer, past the bot.
-/

namespace ChatFlow.Agent

/-- Whether a character only divides a phone number into groups. -/
def isSeparator (c : Char) : Bool := Text.isBlank c || c == '+' || c == '-'

/-- A phone number without what divides it into groups. -/
def plainNumber (phone : String) : String :=
  String.ofList (phone.toList.filter (! isSeparator ·))

structure Receipt where
  messageId : Option String
  data : Assoc Json

def Receipt.of (id answer : Json) : Schema.Checked Receipt :=
  Receipt.mk <$> (Schema.nullable Schema.string id).under (.field "message_id")
    <*> (Schema.object answer).under (.field "data")

def Receipt.toJson (r : Receipt) : Json :=
  .obj [("success", .bool true), ("message_id", .ofText? r.messageId), ("data", .obj r.data)]

variable {κ σ : Type}

/-- Send a text to a customer and keep it; that it could not be kept is only logged. -/
def send (c : Graph.Client) (wire : Graph.Wire κ) (a : Archive σ) (now : String) (k : κ) (s : σ)
    (recipient text : String) : Except Fault Receipt × List Log.Entry × κ × σ :=
  let phone := plainNumber recipient
  match c.sendText wire k { phone } text with
  | (.error f, log, k) => (.error f, log, k, s)
  | (.ok answer, log, k) => match Graph.messageId answer with
    | .error f => (.error f, log, k, s)
    | .ok id =>
      let record := outgoingRecord id "employee" phone (.str text) "whatsapp_meta"
      let (more, s) := match a.append s now phone record none with
        | (.ok (), more, s) => (more, s)
        | (.error f, more, s) =>
          (more ++ [.failure .agent (some phone) "Error saving agent message" f], s)
      match Receipt.of id answer with
      | .ok r => (.ok r, log ++ more, k, s)
      | .bad i is => (.error (.invalid (i :: is)), log ++ more, k, s)

end ChatFlow.Agent
