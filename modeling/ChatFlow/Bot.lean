import ChatFlow.Turn.Run

/-!
# The bot

A bot leads conversations through a workflow. `Bot.handle` takes one message: it starts a new
conversation, or answers the question that waits. Nothing that goes wrong in a step reaches beyond
the turn it happens in.
-/

namespace ChatFlow

/-- A workflow to follow, with the rules for it and the world to act upon. -/
structure Bot (κ : Type) where
  workflow : Workflow
  rules : Rules
  outside : Outside κ

namespace Bot

variable {κ : Type}

structure State (κ : Type) where
  registry : Registry
  world : κ

def noted (log : List Log.Entry) : List Event := log.map .noted

/-- Keep what a turn has made of a conversation. -/
def State.settle (st : State κ) (t : Turn κ) : State κ :=
  ⟨if t.isLive then st.registry.store t.session else st.registry.drop t.session.id, t.world⟩

/-- Take the first step of a workflow, and the steps after it. -/
def begin (b : Bot κ) (t : Turn κ) : Turn κ :=
  t.runFrom b.outside b.workflow b.rules b.workflow.entry? fun _ h => Workflow.mem_of_entry? h

def start (b : Bot κ) (st : State κ) (now : Instant) (id name : String) : State κ × List Event :=
  let (s, registry, log) := st.registry.create now id name
  let t := b.begin (Turn.start s st.world)
  (State.settle ⟨registry, st.world⟩ t, noted log ++ t.events)

/-- Take a message of a session that is in progress. -/
def hear (b : Bot κ) (t : Turn κ) (text : String) : Turn κ :=
  match t.session.pending? with
  | some _ => t.resume b.outside b.workflow b.rules text
  | none => t.say .debug "Not waiting for an answer, ignoring message"

/-- Take a message: the first of a conversation starts it, whatever it says. -/
def handle (b : Bot κ) (st : State κ) (now : Instant) (id text name : String) :
    State κ × List Event :=
  match st.registry.get now id with
  | (none, registry, log) =>
    let (st, events) := b.start ⟨registry, st.world⟩ now id name
    (st, noted log ++ events)
  | (some s, registry, log) =>
    let t := b.hear (Turn.start s st.world) text
    (State.settle ⟨registry, st.world⟩ t, noted log ++ t.events)

end Bot

end ChatFlow
