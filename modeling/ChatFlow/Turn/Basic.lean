import ChatFlow.Endpoint.Call
import ChatFlow.Log
import ChatFlow.Registry
import ChatFlow.Workflow.Basic

/-!
# Turns

A turn is what happens in one conversation when a message has come in: steps are executed, messages
sent and endpoints called until the conversation waits for its customer again. `Turn` holds the
session on the way and all that happened so far, `Outside` is what the turn acts upon.
-/

namespace ChatFlow

inductive Content where
  | text (text : String)
  | buttons (text : String) (options : List String)
  | list (interactive : Assoc Json)

structure Outbound where
  recipient : String
  content : Content

/-- How the world outside behaves: it takes messages or refuses them, and answers calls or not. The
codecs are those that its replies are read with. -/
structure Outside (κ : Type) where
  send : κ → Outbound → Except Fault Unit × List Log.Entry × κ
  fetch : κ → Endpoint.Call → Option Endpoint.Reply × κ
  codecs : Text.Codecs

/-- What happens in a turn. -/
inductive Event where
  | begun (step : Node)
  /-- A message was taken. -/
  | sent (message : Outbound)
  | called (call : Endpoint.Call)
  | noted (entry : Log.Entry)

/-- How a bot behaves where a workflow leaves it open. -/
structure Rules where
  /-- How often a jump without a number of its own may be taken. -/
  maxJumps : Int
  /-- How many wrong answers in a row are borne; zero stands for any number. -/
  maxInvalidAttempts : Int
  /-- The text on the button that opens a list of options. -/
  listButtonText : String
  deriving Repr

/-- The text on that button unless another one is wanted: "choose". -/
def Rules.standardListButton : String := "اختر"

structure Turn (κ : Type) where
  session : Session
  /-- Whether the conversation has not been ended. -/
  isLive : Bool
  world : κ
  events : List Event

/-- The step that comes next, if any, or the failure of the step before it. -/
abbrev Progress (κ : Type) := Except Fault (Option Node) × Turn κ

namespace Turn

variable {κ : Type}

def start (session : Session) (world : κ) : Turn κ := ⟨session, true, world, []⟩

def record (t : Turn κ) (e : Event) : Turn κ := { t with events := t.events ++ [e] }

def note (t : Turn κ) (e : Log.Entry) : Turn κ := t.record (.noted e)

def noteAll (t : Turn κ) (es : List Log.Entry) : Turn κ := es.foldl note t

def say (t : Turn κ) (level : Log.Level) (message : String) : Turn κ :=
  t.note (.within .interpreter level t.session.id message)

def fail (t : Turn κ) (message : String) (cause : Fault) : Turn κ :=
  t.note (.failure .interpreter (some t.session.id) message cause)

def modify (t : Turn κ) (f : Session → Session) : Turn κ := { t with session := f t.session }

/-- End the conversation, unless it was ended before. -/
def finish (t : Turn κ) : Turn κ :=
  if t.isLive then
    { t with isLive := false }.note
      (.plain .session .info ("Ended chatbot session for " ++ t.session.id))
  else t

def send (t : Turn κ) (o : Outside κ) (content : Content) : Except Fault Unit × Turn κ :=
  let message : Outbound := ⟨t.session.id, content⟩
  match o.send t.world message with
  | (.ok (), log, world) => (.ok (), ({ t with world }.noteAll log).record (.sent message))
  | (.error f, log, world) => (.error f, { t with world }.noteAll log)

@[simp] theorem session_record (t : Turn κ) (e : Event) : (t.record e).session = t.session := rfl

@[simp] theorem session_note (t : Turn κ) (e : Log.Entry) : (t.note e).session = t.session := rfl

@[simp] theorem session_noteAll (t : Turn κ) (es : List Log.Entry) :
    (t.noteAll es).session = t.session := by
  induction es generalizing t with
  | nil => rfl
  | cons e es ih => exact ih (t.note e)

@[simp] theorem session_say (t : Turn κ) (l : Log.Level) (m : String) :
    (t.say l m).session = t.session := rfl

@[simp] theorem session_fail (t : Turn κ) (m : String) (c : Fault) :
    (t.fail m c).session = t.session := rfl

@[simp] theorem session_finish (t : Turn κ) : t.finish.session = t.session := by
  unfold finish; split <;> rfl

@[simp] theorem session_send (t : Turn κ) (o : Outside κ) (c : Content) :
    (t.send o c).2.session = t.session := by
  simp only [send]; split <;> simp

end Turn

namespace Event

def log? : Event → Option Log.Entry
  | noted e => some e
  | _ => none

def sent? : Event → Option Outbound
  | sent m => some m
  | _ => none

def called? : Event → Option Endpoint.Call
  | called c => some c
  | _ => none

def begun? : Event → Option Node
  | begun n => some n
  | _ => none

def steps (es : List Event) : List Node := es.filterMap begun?

def messages (es : List Event) : List Outbound := es.filterMap sent?

def calls (es : List Event) : List Endpoint.Call := es.filterMap called?

theorem steps_append (es es' : List Event) : steps (es ++ es') = steps es ++ steps es' :=
  List.filterMap_append

end Event

end ChatFlow
