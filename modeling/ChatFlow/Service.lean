import ChatFlow.Agent
import ChatFlow.Bot
import ChatFlow.Channel
import ChatFlow.Dispatch
import ChatFlow.Inbox
import ChatFlow.Service.Route
import ChatFlow.Settings
import ChatFlow.Store
import ChatFlow.Workflow.Bundled

/-!
# The service

All parts together: the provider reports messages of customers, which are kept and handed to the
bot, agents write messages of their own, and both can look at the conversations. `Service.answer`
answers one request and lets the bot finish with what came in by it.
-/

namespace ChatFlow

namespace Service

def version : String := "0.1.0"

/-- What the service acts upon: the channel of the bot, and the endpoints of its workflow. -/
structure World (κ ε σ : Type) where
  channel : Channel.World κ σ
  endpoint : ε

abbrev Fetch (ε : Type) := ε → Endpoint.Call → Option Endpoint.Reply × ε

def outside {κ ε σ : Type} (c : Channel κ σ) (fetch : Fetch ε) : Outside (World κ ε σ) where
  send w m :=
    let (result, log, channel) := c.send w.channel m
    (result.map fun _ => (), log, { w with channel })
  fetch w call :=
    let (reply, endpoint) := fetch w.endpoint call
    (reply, { w with endpoint })
  codecs := c.wire.codecs

/-- What is said about the faults of reports, by the body of the report. Where a text from outside is
not told just as it came, it is shown with escapes, so that the words can be encoded. -/
structure Phrasing where
  words : List UInt8 → Fault → String
  isEncodable : ∀ body f, f.isQuote = false → Text.isEncodable (words body f)

end Service

structure Service (κ ε σ : Type) where
  settings : Settings
  channel : Channel κ σ
  fetch : Service.Fetch ε
  workflow : Workflow
  phrasing : Service.Phrasing

namespace Service

variable {κ ε σ : Type}

def bot (s : Service κ ε σ) : Bot (World κ ε σ) :=
  ⟨s.workflow, s.settings.rules, outside s.channel s.fetch⟩

abbrev State (κ ε σ : Type) := Bot.State (World κ ε σ)

def initial (s : Service κ ε σ) (w : World κ ε σ) : State κ ε σ := ⟨s.settings.registry, w⟩

/-- Whether a code point may stand in a path. Of the halves of pairs only some do, for they stand for
single bytes. -/
def isPathPoint (n : Nat) : Bool := !Text.isHalf n || (0xdc80 ≤ n && n ≤ 0xdcff)

/-- The workflow that is configured; `file` is the content of the file at a path, if there is
one. -/
def loadWorkflow (settings : Settings) (file : String → Option (List UInt8)) :
    Except Fault (Workflow × List Log.Entry) :=
  match settings.workflowPath with
  | some path =>
    if path.contains '\x00' then .error .notPath
    else if (Text.points path.toList).all isPathPoint then Workflow.ofFile path (file path) true
    else .error .unencodable
  | none => Workflow.bundled

/-! ### Single resources -/

def brokenDown : Response := ⟨500, .text "Internal Server Error"⟩

def json (v : Json) (status : Nat := 200) : Response :=
  match v.encode with
  | .ok _ => ⟨status, .json v⟩
  | .error _ => brokenDown

/-- A response that says in a few words what is wrong. -/
def detail (status : Nat) (text : String) : Response := json (.obj [("detail", .str text)]) status

def name (s : Service κ ε σ) : String := s.settings.projectName ++ " WhatsApp Backend"

def overview (s : Service κ ε σ) (time : String) : Json := .obj [
  ("status", .str "running"), ("service", .str s.name), ("version", .str version),
  ("timestamp", .str time),
  ("endpoints", .obj [
    ("webhook", .str "/webhook"),
    ("sendMessage", .str "POST /api/send-message"),
    ("conversations", .str "GET /api/conversations"),
    ("messages", .str "GET /api/conversations/\x7bphone\x7d/messages")])]

def health (time : String) : Json := .obj [("status", .str "healthy"), ("timestamp", .str time)]

def info (s : Service κ ε σ) : Json :=
  .obj [("status", .str "running"), ("service", .str s.name), ("version", .str version)]

structure Order where
  recipient : Option String
  message : Option String
  type : String
  deriving DecidableEq, Repr

open Schema in
def Order.decode : Decoder Order
  | .obj fields => Order.mk <$> defaulted fields ["to"] none (nullable string)
    <*> defaulted fields ["message"] none (nullable string)
    <*> defaulted fields ["type"] "text" string
  | _ => .complain .notAttributes

/-- A body that was read: its value, and the order that this is or the issues that it has. -/
structure Order.Reading where
  value : Json
  order : Schema.Checked Order

open Schema in
/-- Read the body of a request; all issues stand under `body`. -/
def Order.ofBody (body : List UInt8) : Except Fault Order.Reading :=
  if body.isEmpty then .ok ⟨.null, (Checked.complain .missing).under (.field "body")⟩
  else match Json.readBody body with
    | .ok v => .ok ⟨v, (Order.decode v).under (.field "body")⟩
    | .error .notJson => .ok ⟨.null, (Checked.complain .unreadableBody).under (.field "body")⟩
    | .error f => .error f

def part? (v : Json) : List Schema.Segment → Option Json
  | [] => some v
  | .field k :: path => (v.field? k).bind (part? · path)
  | .item _ :: _ => none

/-- Whether the parts of a body that have issues can be shown. -/
def canShow (body : Json) (issues : List Schema.Issue) : Bool :=
  issues.all fun i => (part? body (i.path.drop 1)).all fun v => v.encode.isOk

def refused (status : Nat) (error : String) (more : List (String × Json) := []) : Response :=
  json (.obj (("error", .str error) :: more)) status

inductive Answer where
  | response (r : Response)
  | unprocessable (issues : List Schema.Issue)

def sendOrder (s : Service κ ε σ) (w : Channel.World κ σ) (order : Order) :
    Response × List Log.Entry × Channel.World κ σ :=
  match order.recipient.filter (! ·.isEmpty), order.message.filter (! ·.isEmpty) with
  | some recipient, some message =>
    if order.type = "text" then
      let c := s.channel
      let (result, log, wire, records) :=
        Agent.send c.client c.wire c.archive w.now w.wire w.records recipient message
      let response := match result with
        | .ok receipt => json receipt.toJson
        | .error (.undelivered m code) => refused 500 m [("error_code", .str code)]
        | .error _ => brokenDown
      (response, log, { w with wire, records })
    else (refused 400 ("Unsupported message type: " ++ order.type), [], w)
  | _, _ => (refused 400 "Missing required fields: to, message", [], w)

def sendMessage (s : Service κ ε σ) (w : Channel.World κ σ) (body : List UInt8) :
    Answer × List Log.Entry × Channel.World κ σ :=
  match Order.ofBody body with
  | .error _ => (.response (detail 400 "There was an error parsing the body"), [], w)
  | .ok ⟨v, .bad i is⟩ =>
    (if canShow v (i :: is) then .unprocessable (i :: is) else .response brokenDown, [], w)
  | .ok ⟨_, .ok order⟩ =>
    let (response, log, w) := s.sendOrder w order
    (.response response, log, w)

/-- Take a report of the provider. Whatever is wrong with it, the answer says so with status 200,
for otherwise the report would be repeated. -/
def takeReport (s : Service κ ε σ) (w : Channel.World κ σ) (body : List UInt8) :
    Response × List Message × List Log.Entry × Channel.World κ σ :=
  let failed (f : Fault) : Response :=
    json (.obj [("status", .str "error"), ("message", .str (s.phrasing.words body f))])
  match Json.readBody body with
  | .error f => (failed f, [], [], w)
  | .ok batch =>
    match Inbox.receive s.channel.archive w.now s.settings.botPhoneNumberId w.records batch with
    | (.ok (receipt, messages), log, records) =>
      (json receipt.toJson, messages, log, { w with records })
    | (.error f, log, records) => (failed f, [], log, { w with records })

/-! ### Requests -/

/-- The bot as a handler of messages, which nothing breaks. -/
def handler (s : Service κ ε σ) (now : Instant) : Dispatcher.Handler (State κ ε σ) := fun st id m =>
  let (st, events) := s.bot.handle st now id m.text m.displayName
  (st, events, none)

/-- Submit messages one after the other. -/
def submitAll (d : Dispatcher) : List Message → Dispatcher × List Log.Entry
  | [] => (d, [])
  | m :: ms =>
    let (d, log) := d.submit m.conversation ⟨m.text, m.displayName⟩
    let (d, more) := submitAll d ms
    (d, log ++ more)

/-- Hand messages over to the bot, and let it finish with them. -/
def handleAll (s : Service κ ε σ) (st : State κ ε σ) (now : Instant) (messages : List Message) :
    State κ ε σ × List Event :=
  let (d, log) := submitAll {} messages
  let (_, st, events) := d.drain (s.handler now) st
  (st, Bot.noted log ++ events)

def State.withChannel (st : State κ ε σ) (channel : Channel.World κ σ) : State κ ε σ :=
  { st with world := { st.world with channel } }

/-- Answer a request. The session clock shows `now`, and answers carry `time`. An answer to the
method `HEAD` has no body. -/
def answer (s : Service κ ε σ) (st : State κ ε σ) (now : Instant) (time : String) (r : Request) :
    Answer × State κ ε σ × List Event :=
  let plain (response : Response) : Answer × State κ ε σ × List Event :=
    (.response (if r.method = "HEAD" then { response with body := .text "" } else response), st, [])
  let w := st.world.channel
  match r.route with
  | .unknown => plain (detail 404 "Not Found")
  | .wrongMethod => plain (detail 405 "Method Not Allowed")
  | .moved => plain ⟨307, .text ""⟩
  | .found .overview => plain (json (s.overview time))
  | .found .health => plain (json (health time))
  | .found .info => plain (json s.info)
  | .found .conversations => plain (json (.arr (s.channel.archive.conversations w.records)))
  | .found (.messages phone) =>
    let (found, records) := s.channel.archive.messages w.records phone
    (.response (json (.arr (found.map .obj))), State.withChannel st { w with records }, [])
  | .found .sendMessage =>
    let (a, log, w) := s.sendMessage w r.body
    (a, State.withChannel st w, Bot.noted log)
  | .found .webhook =>
    if r.method = "GET" then
      let (a, log) := Inbox.verify (r.query.get? "hub.mode") (r.query.get? "hub.verify_token")
        (r.query.get? "hub.challenge") s.settings.verifyToken
      (.response ⟨a.status, .text a.body⟩, st, Bot.noted log)
    else
      let (response, messages, log, w) := s.takeReport w r.body
      let (st, events) := s.handleAll (State.withChannel st w) now messages
      (.response response, st, Bot.noted log ++ events)

end Service

end ChatFlow
