import ChatFlow.Proofs.Isolation
import ChatFlow.Service

/-!
# Nothing hangs on the archive

Messages are kept after they were sent and before they are handed to the bot, and that one could not
be kept is only logged. So two services that differ in their archives alone, whatever these keep and
however they fail, take a request alike: the bot is handed the same messages, sends and calls the
same, and leads the same conversations (`Alike.answer`). Nor does a run of requests and sweeps tell
one archive from another (`archive_is_not_noticed`).
-/

namespace ChatFlow

variable {κ ε σ₁ σ₂ : Type}

/-! ### Letting workers finish -/

namespace Dispatcher

section Work

variable {σ : Type} {handle : Handler σ} {d : Dispatcher} {i q : Nat} {s : σ} {c : String}
  {m : Inbound} {ms : List Inbound}

theorem work_of_none (h : d.workers[i]? = none) : work handle d i s = (d, s, []) := by
  rw [work]
  split <;> rename_i heq <;> cases h.symm.trans heq
  rfl

theorem work_of_done (h : d.workers[i]? = some ⟨c, .done⟩) : work handle d i s = (d, s, []) := by
  rw [work]
  split <;> rename_i heq <;> cases h.symm.trans heq
  rfl

theorem work_of_fresh (h : d.workers[i]? = some ⟨c, .fresh⟩) :
    work handle d i s = work handle (d.begin i c) i s := by
  rw [work]
  split <;> rename_i heq <;> cases h.symm.trans heq
  rfl

theorem work_of_idle (h : d.workers[i]? = some ⟨c, .ready q⟩) (hq : d.queue q = []) :
    work handle d i s = (d.leave i c, s, []) := by
  rw [work]
  split <;> rename_i heq <;> cases h.symm.trans heq
  split <;> rename_i hqueue <;> cases hq.symm.trans hqueue
  rfl

theorem work_of_ready (h : d.workers[i]? = some ⟨c, .ready q⟩) (hq : d.queue q = m :: ms) :
    work handle d i s = work handle (d.take i c q m ms) i s := by
  rw [work]
  split <;> rename_i heq <;> cases h.symm.trans heq
  split <;> rename_i hqueue <;> cases hq.symm.trans hqueue
  rfl

theorem work_of_busy (h : d.workers[i]? = some ⟨c, .busy q m⟩) :
    work handle d i s =
      let (s, events, fault) := handle s c m
      let (d, s, later) := work handle (d.finish i c q) i s
      (d, s, events ++ (fault.map fun f => Event.noted (breakdown c m f)).toList ++ later) := by
  rw [work]
  split <;> rename_i heq <;> cases h.symm.trans heq
  rfl

end Work

variable {S : σ₁ → σ₂ → Prop} {h₁ : Handler σ₁} {h₂ : Handler σ₂}

/-- Two handlers take every message alike as long as their states are related. -/
def HandleAlike (S : σ₁ → σ₂ → Prop) (h₁ : Handler σ₁) (h₂ : Handler σ₂) : Prop :=
  ∀ {s₁ s₂}, S s₁ s₂ → ∀ c m,
    S (h₁ s₁ c m).1 (h₂ s₂ c m).1 ∧ Event.deeds (h₁ s₁ c m).2.1 = Event.deeds (h₂ s₂ c m).2.1

/-- What two dispatchers have come to that let workers go on: to the same, but for the log. -/
structure Agree (S : σ₁ → σ₂ → Prop) (p₁ : Dispatcher × σ₁ × List Event)
    (p₂ : Dispatcher × σ₂ × List Event) : Prop where
  dispatcher : p₁.1 = p₂.1
  state : S p₁.2.1 p₂.2.1
  deeds : Event.deeds p₁.2.2 = Event.deeds p₂.2.2

theorem Agree.idle {s₁ : σ₁} {s₂ : σ₂} (h : S s₁ s₂) (d : Dispatcher) :
    Agree S (d, s₁, []) (d, s₂, []) := ⟨rfl, h, rfl⟩

theorem deeds_breakdown (c : String) (m : Inbound) (fault : Option Fault) :
    Event.deeds (fault.map fun f => Event.noted (breakdown c m f)).toList = [] := by
  cases fault <;> rfl

theorem agree_work (hh : HandleAlike S h₁ h₂) (d : Dispatcher) (i : Nat) {s₁ : σ₁} {s₂ : σ₂}
    (hs : S s₁ s₂) : Agree S (work h₁ d i s₁) (work h₂ d i s₂) := by
  fun_induction work h₁ d i s₁ generalizing s₂ with
  | case1 d s hw => rw [work_of_none hw]; exact .idle hs d
  | case2 d s c hw => rw [work_of_done hw]; exact .idle hs d
  | case3 d s c hw ih => rw [work_of_fresh hw]; exact ih hs
  | case4 d s c q hw hq => rw [work_of_idle hw hq]; exact .idle hs _
  | case5 d s c q hw m ms hq ih => rw [work_of_ready hw hq]; exact ih hs
  | case6 d s c q m hw s' events fault hx d' s'' later heq ih =>
    obtain ⟨hstate, hdeeds⟩ := hh hs c m
    rw [hx] at hstate hdeeds
    have hrest := ih hstate
    rw [heq] at hrest
    rw [work_of_busy hw]
    refine ⟨hrest.dispatcher, hrest.state, ?_⟩
    dsimp only
    rw [Event.deeds_append, Event.deeds_append, Event.deeds_append, Event.deeds_append,
      deeds_breakdown, deeds_breakdown, hdeeds, hrest.deeds]

theorem agree_workAll (hh : HandleAlike S h₁ h₂) (is : List Nat) (d : Dispatcher) {s₁ : σ₁}
    {s₂ : σ₂} (hs : S s₁ s₂) : Agree S (workAll h₁ is d s₁) (workAll h₂ is d s₂) := by
  induction is generalizing d s₁ s₂ with
  | nil => exact .idle hs d
  | cons i is ih =>
    have hfirst := agree_work hh d i hs
    rw [workAll, workAll]
    generalize work h₁ d i s₁ = p₁ at hfirst
    generalize work h₂ d i s₂ = p₂ at hfirst
    obtain ⟨d', s₁', events₁⟩ := p₁
    obtain ⟨_, s₂', events₂⟩ := p₂
    obtain rfl : d' = _ := hfirst.dispatcher
    have hrest := ih d' hfirst.state
    refine ⟨hrest.dispatcher, hrest.state, ?_⟩
    dsimp only at hfirst hrest ⊢
    rw [Event.deeds_append, Event.deeds_append, hfirst.deeds, hrest.deeds]

end Dispatcher

/-! ### Sending and keeping -/

namespace Channel

variable {c₁ : Channel κ σ₁} {c₂ : Channel κ σ₂} {w₁ : World κ σ₁} {w₂ : World κ σ₂}

theorem wire_keep (c : Channel κ σ₁) (w : World κ σ₁) (recipient : String) (content id : Json) :
    (c.keep w recipient content id).2.wire = w.wire := by
  unfold keep
  dsimp only
  split <;> rfl

/-- A message goes out, or fails to, before it is kept. -/
theorem dispatch_alike (hwire : c₁.wire = c₂.wire) (hw : w₁.wire = w₂.wire) (recipient : String)
    (send : Graph.Wire κ → κ → Graph.Sent κ Json) (content : Except Fault Json) :
    (c₁.dispatch w₁ recipient send content).1 = (c₂.dispatch w₂ recipient send content).1 ∧
      (c₁.dispatch w₁ recipient send content).2.2.wire =
        (c₂.dispatch w₂ recipient send content).2.2.wire := by
  unfold dispatch
  rw [hwire, hw]
  rcases send c₂.wire w₂.wire with ⟨f | answer, log, wire⟩
  · exact ⟨rfl, rfl⟩
  · dsimp only
    rcases Graph.messageId answer with f | id
    · exact ⟨rfl, rfl⟩
    · rcases content with f | content
      · exact ⟨rfl, rfl⟩
      · refine ⟨rfl, ?_⟩
        dsimp only
        rw [wire_keep, wire_keep]

theorem send_alike (hclient : c₁.client = c₂.client) (hwire : c₁.wire = c₂.wire)
    (hw : w₁.wire = w₂.wire) (m : Outbound) :
    (c₁.send w₁ m).1 = (c₂.send w₂ m).1 ∧
      (c₁.send w₁ m).2.2.wire = (c₂.send w₂ m).2.2.wire := by
  unfold send
  split
  · rw [sendText, sendText, hclient]
    exact dispatch_alike hwire hw ..
  · unfold sendOptions
    split
    · exact ⟨rfl, hw⟩
    · rw [hclient]
      exact dispatch_alike hwire hw ..
  · rw [sendList, sendList, hclient]
    exact dispatch_alike hwire hw ..

end Channel

theorem Agent.send_alike (client : Graph.Client) (wire : Graph.Wire κ) (a₁ : Archive σ₁)
    (a₂ : Archive σ₂) (now₁ now₂ : String) (k : κ) (s₁ : σ₁) (s₂ : σ₂) (recipient text : String) :
    (Agent.send client wire a₁ now₁ k s₁ recipient text).1 =
        (Agent.send client wire a₂ now₂ k s₂ recipient text).1 ∧
      (Agent.send client wire a₁ now₁ k s₁ recipient text).2.2.1 =
        (Agent.send client wire a₂ now₂ k s₂ recipient text).2.2.1 := by
  unfold Agent.send
  dsimp only
  rcases client.sendText wire k { phone := plainNumber recipient } text with ⟨f | answer, log, k'⟩
  · exact ⟨rfl, rfl⟩
  · dsimp only
    rcases Graph.messageId answer with f | id
    · exact ⟨rfl, rfl⟩
    · dsimp only
      rcases Receipt.of id answer with r | ⟨i, is⟩ <;> exact ⟨rfl, rfl⟩

theorem Inbox.receive_alike (a₁ : Archive σ₁) (a₂ : Archive σ₂) (now₁ now₂ : String)
    (bot : Option String) (s₁ : σ₁) (s₂ : σ₂) (batch : Json) :
    (receive a₁ now₁ bot s₁ batch).1 = (receive a₂ now₂ bot s₂ batch).1 := by
  unfold receive
  rcases batch.member "object" with f | object
  · rfl
  · dsimp only
    split
    · rcases extract batch with ⟨f | _ | ⟨m, ms⟩, log⟩ <;> rfl
    · rfl

namespace Service

/-! ### Two services -/

/-- Two services that differ in their archives at most. -/
structure Alike (s₁ : Service κ ε σ₁) (s₂ : Service κ ε σ₂) : Prop where
  settings : s₁.settings = s₂.settings
  client : s₁.channel.client = s₂.channel.client
  wire : s₁.channel.wire = s₂.channel.wire
  fetch : s₁.fetch = s₂.fetch
  workflow : s₁.workflow = s₂.workflow
  phrasing : s₁.phrasing = s₂.phrasing

/-- Two worlds that differ in what was kept at most. -/
structure World.Alike (w₁ : World κ ε σ₁) (w₂ : World κ ε σ₂) : Prop where
  wire : w₁.channel.wire = w₂.channel.wire
  endpoint : w₁.endpoint = w₂.endpoint

/-- Two states that differ in what was kept at most. -/
structure State.Alike (st₁ : State κ ε σ₁) (st₂ : State κ ε σ₂) : Prop where
  idleTimeout : st₁.registry.idleTimeout = st₂.registry.idleTimeout
  find? : ∀ id, st₁.registry.find? id = st₂.registry.find? id
  world : World.Alike st₁.world st₂.world

variable {s₁ : Service κ ε σ₁} {s₂ : Service κ ε σ₂} {st₁ : State κ ε σ₁} {st₂ : State κ ε σ₂}

theorem Alike.outside (hs : Alike s₁ s₂) :
    (outside s₁.channel s₁.fetch).Alike (outside s₂.channel s₂.fetch) World.Alike where
  send hw m := by
    obtain ⟨hresult, hwire⟩ := Channel.send_alike hs.client hs.wire hw.wire m
    exact ⟨congrArg (Except.map fun _ => ()) hresult, hwire, hw.endpoint⟩
  fetch {w₁ w₂} hw call := by
    have hfetch : s₁.fetch w₁.endpoint call = s₂.fetch w₂.endpoint call := by
      rw [hs.fetch, hw.endpoint]
    exact ⟨congrArg (·.1) hfetch, hw.wire, congrArg (·.2) hfetch⟩
  codecs := congrArg (·.codecs) hs.wire

theorem Alike.handle (hs : Alike s₁ s₂) (h : State.Alike st₁ st₂) (now : Instant)
    (id text name : String) :
    State.Alike (s₁.bot.handle st₁ now id text name).1 (s₂.bot.handle st₂ now id text name).1 ∧
      Event.deeds (s₁.bot.handle st₁ now id text name).2 =
        Event.deeds (s₂.bot.handle st₂ now id text name).2 := by
  obtain ⟨hdeeds, hfind, hworld⟩ := Bot.handle_alike s₁.bot s₂.bot hs.workflow
    (congrArg Settings.rules hs.settings) hs.outside st₁ st₂ now id text name h.world
    (Registry.live?_congr h.idleTimeout (h.find? id) now)
  refine ⟨⟨?_, fun c => ?_, hworld⟩, hdeeds⟩
  · rw [Bot.idleTimeout_handle, Bot.idleTimeout_handle, h.idleTimeout]
  · by_cases hc : id = c
    · exact hc ▸ hfind
    · rw [Bot.find?_handle, Bot.find?_handle, if_neg hc, if_neg hc, h.find? c]

theorem Alike.handleAll (hs : Alike s₁ s₂) (h : State.Alike st₁ st₂) (now : Instant)
    (messages : List Message) :
    State.Alike (s₁.handleAll st₁ now messages).1 (s₂.handleAll st₂ now messages).1 ∧
      Event.deeds (s₁.handleAll st₁ now messages).2 =
        Event.deeds (s₂.handleAll st₂ now messages).2 := by
  have hh : Dispatcher.HandleAlike State.Alike (s₁.handler now) (s₂.handler now) :=
    fun h id m => hs.handle h now id m.text m.displayName
  have hall (d : Dispatcher) := Dispatcher.agree_workAll hh (List.range d.workers.length) d h
  refine ⟨(hall _).state, ?_⟩
  rw [Service.handleAll, Service.handleAll]
  simp only [Event.deeds_append, Event.deeds_noted]
  exact congrArg ([] ++ ·) (hall _).deeds

theorem Alike.takeReport (hs : Alike s₁ s₂) {w₁ : Channel.World κ σ₁} {w₂ : Channel.World κ σ₂}
    (hw : w₁.wire = w₂.wire) (body : List UInt8) :
    (s₁.takeReport w₁ body).1 = (s₂.takeReport w₂ body).1 ∧
      (s₁.takeReport w₁ body).2.1 = (s₂.takeReport w₂ body).2.1 ∧
      (s₁.takeReport w₁ body).2.2.2.wire = (s₂.takeReport w₂ body).2.2.2.wire := by
  unfold Service.takeReport
  rw [← hs.settings, ← hs.phrasing]
  rcases Json.readBody body with f | batch
  · exact ⟨rfl, rfl, hw⟩
  · dsimp only
    have h := Inbox.receive_alike s₁.channel.archive s₂.channel.archive w₁.now w₂.now
      s₁.settings.botPhoneNumberId w₁.records w₂.records batch
    generalize Inbox.receive s₁.channel.archive w₁.now _ w₁.records batch = p₁ at h
    generalize Inbox.receive s₂.channel.archive w₂.now _ w₂.records batch = p₂ at h
    obtain ⟨result, log₁, records₁⟩ := p₁
    obtain ⟨_, log₂, records₂⟩ := p₂
    obtain rfl : result = _ := h
    rcases result with f | ⟨receipt, messages⟩ <;> exact ⟨rfl, rfl, hw⟩

theorem Alike.sendOrder (hs : Alike s₁ s₂) {w₁ : Channel.World κ σ₁} {w₂ : Channel.World κ σ₂}
    (hw : w₁.wire = w₂.wire) (order : Order) :
    (s₁.sendOrder w₁ order).1 = (s₂.sendOrder w₂ order).1 ∧
      (s₁.sendOrder w₁ order).2.2.wire = (s₂.sendOrder w₂ order).2.2.wire := by
  unfold Service.sendOrder
  split
  · rename_i recipient message _ _
    split
    · obtain ⟨hresult, hwire⟩ := Agent.send_alike s₂.channel.client s₂.channel.wire
        s₁.channel.archive s₂.channel.archive w₁.now w₂.now w₂.wire w₁.records w₂.records
        recipient message
      dsimp only
      rw [hs.client, hs.wire, hw, hresult]
      exact ⟨rfl, hwire⟩
    · exact ⟨rfl, hw⟩
  · exact ⟨rfl, hw⟩

theorem Alike.sendMessage (hs : Alike s₁ s₂) {w₁ : Channel.World κ σ₁} {w₂ : Channel.World κ σ₂}
    (hw : w₁.wire = w₂.wire) (body : List UInt8) :
    (s₁.sendMessage w₁ body).1 = (s₂.sendMessage w₂ body).1 ∧
      (s₁.sendMessage w₁ body).2.2.wire = (s₂.sendMessage w₂ body).2.2.wire := by
  unfold Service.sendMessage
  rcases Order.ofBody body with f | ⟨v, order | ⟨i, is⟩⟩
  · exact ⟨rfl, hw⟩
  · obtain ⟨hresponse, hwire⟩ := hs.sendOrder hw order
    exact ⟨congrArg Answer.response hresponse, hwire⟩
  · exact ⟨rfl, hw⟩

/-! ### Requests -/

/-- Whether a request asks for what is kept. -/
def Request.asksArchive (r : Request) : Bool :=
  match r.route with
  | .found .conversations | .found (.messages _) => true
  | _ => false

/-- The messages that a request hands to the bot. -/
def handed (s : Service κ ε σ) (w : Channel.World κ σ) (r : Request) : List Message :=
  match r.route with
  | .found .webhook => if r.method = "GET" then [] else (s.takeReport w r.body).2.1
  | _ => []

theorem State.Alike.withChannel (h : State.Alike st₁ st₂) {w₁ : Channel.World κ σ₁}
    {w₂ : Channel.World κ σ₂} (hw : w₁.wire = w₂.wire) :
    State.Alike (State.withChannel st₁ w₁) (State.withChannel st₂ w₂) :=
  ⟨h.idleTimeout, h.find?, hw, h.world.endpoint⟩

theorem State.Alike.purge (h : State.Alike st₁ st₂) (now : Instant) :
    State.Alike ⟨(st₁.registry.purge now).2.1, st₁.world⟩
      ⟨(st₂.registry.purge now).2.1, st₂.world⟩ where
  idleTimeout := h.idleTimeout
  find? id := by
    rw [Registry.find?_purge, Registry.find?_purge, h.find? id,
      funext (Registry.isExpired_congr h.idleTimeout now)]
  world := h.world

theorem Alike.handed (hs : Alike s₁ s₂) {w₁ : Channel.World κ σ₁} {w₂ : Channel.World κ σ₂}
    (hw : w₁.wire = w₂.wire) (r : Request) : s₁.handed w₁ r = s₂.handed w₂ r := by
  unfold Service.handed
  split
  · rw [(hs.takeReport hw r.body).2.1]
  · rfl

/-- Services that differ in their archives alone answer a request alike, unless it asks for what is
kept. -/
theorem Alike.answer (hs : Alike s₁ s₂) (h : State.Alike st₁ st₂) (now : Instant) (time : String)
    (r : Request) :
    State.Alike (s₁.answer st₁ now time r).2.1 (s₂.answer st₂ now time r).2.1 ∧
      Event.deeds (s₁.answer st₁ now time r).2.2 = Event.deeds (s₂.answer st₂ now time r).2.2 ∧
      (r.asksArchive = false →
        (s₁.answer st₁ now time r).1 = (s₂.answer st₂ now time r).1) := by
  have hname : s₁.name = s₂.name := by rw [name, name, hs.settings]
  unfold Service.answer
  dsimp only
  split
  · exact ⟨h, rfl, fun _ => rfl⟩
  · exact ⟨h, rfl, fun _ => rfl⟩
  · exact ⟨h, rfl, fun _ => rfl⟩
  · exact ⟨h, rfl, fun _ => by rw [overview, overview, hname]⟩
  · exact ⟨h, rfl, fun _ => rfl⟩
  · exact ⟨h, rfl, fun _ => by rw [info, info, hname]⟩
  · rename_i hroute
    exact ⟨h, rfl, fun ha => by rw [Request.asksArchive, hroute] at ha; cases ha⟩
  · rename_i phone hroute
    exact ⟨h.withChannel h.world.wire, rfl, fun ha => by
      rw [Request.asksArchive, hroute] at ha; cases ha⟩
  · obtain ⟨hanswer, hwire⟩ := hs.sendMessage h.world.wire r.body
    refine ⟨h.withChannel hwire, ?_, fun _ => hanswer⟩
    rw [Event.deeds_noted, Event.deeds_noted]
  · split
    · rw [hs.settings]
      exact ⟨h, by rw [Event.deeds_noted], fun _ => rfl⟩
    · obtain ⟨hanswer, hhanded, hwire⟩ := hs.takeReport h.world.wire r.body
      obtain ⟨hstate, hdeeds⟩ := hs.handleAll (h.withChannel hwire) now
        (s₁.takeReport st₁.world.channel r.body).2.1
      dsimp only
      rw [← hhanded, Event.deeds_append, Event.deeds_append, Event.deeds_noted, Event.deeds_noted,
        hdeeds]
      exact ⟨hstate, rfl, fun _ => congrArg Answer.response hanswer⟩

/-! ### Runs -/

/-- What a service is called for: a request, which comes at the time `stored` for the archive and
whose answer carries `time`, or a sweep of the sessions. -/
inductive Occasion where
  | request (r : Request) (stored : String) (now : Instant) (time : String)
  | sweep (now : Instant)

/-- What comes of a request, apart from what is kept and logged: the messages for the bot, what is
done about them, and the answer, unless this shows what is kept. -/
structure Effect where
  handed : List Message
  deeds : List Event
  answer? : Option Answer

/-- Go through some occasions. -/
def attend (s : Service κ ε σ) : State κ ε σ → List Occasion → State κ ε σ × List Effect
  | st, [] => (st, [])
  | st, .request r stored now time :: os =>
    let st := State.withChannel st { st.world.channel with now := stored }
    let handed := s.handed st.world.channel r
    let (answer, st, events) := s.answer st now time r
    let (last, later) := s.attend st os
    (last, ⟨handed, Event.deeds events, if r.asksArchive then none else some answer⟩ :: later)
  | st, .sweep now :: os => s.attend ⟨(st.registry.purge now).2.1, st.world⟩ os

/-- Services that differ in their archives alone get through any occasions alike. -/
theorem Alike.attend (hs : Alike s₁ s₂) (h : State.Alike st₁ st₂) (os : List Occasion) :
    State.Alike (s₁.attend st₁ os).1 (s₂.attend st₂ os).1 ∧
      (s₁.attend st₁ os).2 = (s₂.attend st₂ os).2 := by
  induction os generalizing st₁ st₂ with
  | nil => exact ⟨h, rfl⟩
  | cons o os ih =>
    cases o with
    | sweep now => exact ih (h.purge now)
    | request r stored now time =>
      have hstored : State.Alike (State.withChannel st₁ { st₁.world.channel with now := stored })
          (State.withChannel st₂ { st₂.world.channel with now := stored }) :=
        h.withChannel h.world.wire
      obtain ⟨hstate, hdeeds, hanswer⟩ := hs.answer hstored now time r
      obtain ⟨hlast, hlater⟩ := ih hstate
      refine ⟨hlast, ?_⟩
      unfold Service.attend
      dsimp only
      rw [hs.handed hstored.world.wire, hdeeds, hlater]
      split
      · rfl
      · rename_i ha
        rw [hanswer (Bool.eq_false_iff.2 ha)]

end Service

/-! ### Traces -/

/-- A connection that remembers what was posted over it. -/
def Graph.Wire.traced (w : Wire κ) : Wire (κ × List Post) where
  post k p :=
    let (d, k') := w.post k.1 p
    (d, k', k.2 ++ [p])
  codecs := w.codecs

namespace Service

/-- Endpoints that remember how they were called. -/
def Fetch.traced (fetch : Fetch ε) : Fetch (ε × List Endpoint.Call) := fun e call =>
  let (reply, e') := fetch e.1 call
  (reply, e', e.2 ++ [call])

/-- Nothing hangs on the archive. Two services that are given the same but for their archives go
through the same occasions, whatever these archives keep, log and fail at. Then for each request the
bot is handed the same messages and does the same about them, and the answers are the same unless
they show what is kept. In the end the same was posted, the same endpoints were called, and every
conversation has the same session. -/
theorem archive_is_not_noticed (settings : Settings) (client : Graph.Client) (wire : Graph.Wire κ)
    (fetch : Fetch ε) (w : Workflow) (phrasing : Phrasing) (a₁ : Archive σ₁) (a₂ : Archive σ₂)
    (name₁ name₂ : String) (k : κ) (e : ε) (records₁ : σ₁) (records₂ : σ₂)
    (stored₁ stored₂ : String) (os : List Occasion) :
    let s₁ : Service (κ × List Graph.Post) (ε × List Endpoint.Call) σ₁ :=
      ⟨settings, ⟨client, wire.traced, a₁, name₁⟩, fetch.traced, w, phrasing⟩
    let s₂ : Service (κ × List Graph.Post) (ε × List Endpoint.Call) σ₂ :=
      ⟨settings, ⟨client, wire.traced, a₂, name₂⟩, fetch.traced, w, phrasing⟩
    let p₁ := s₁.attend (s₁.initial ⟨⟨(k, []), records₁, stored₁⟩, (e, [])⟩) os
    let p₂ := s₂.attend (s₂.initial ⟨⟨(k, []), records₂, stored₂⟩, (e, [])⟩) os
    p₁.2 = p₂.2 ∧
      p₁.1.world.channel.wire.2 = p₂.1.world.channel.wire.2 ∧
      p₁.1.world.endpoint.2 = p₂.1.world.endpoint.2 ∧
      ∀ id, p₁.1.registry.find? id = p₂.1.registry.find? id := by
  intro s₁ s₂ p₁ p₂
  have hs : Alike s₁ s₂ := ⟨rfl, rfl, rfl, rfl, rfl, rfl⟩
  have hinitial : State.Alike (s₁.initial ⟨⟨(k, []), records₁, stored₁⟩, (e, [])⟩)
      (s₂.initial ⟨⟨(k, []), records₂, stored₂⟩, (e, [])⟩) := ⟨rfl, fun _ => rfl, rfl, rfl⟩
  obtain ⟨hlast, heffects⟩ := hs.attend hinitial os
  exact ⟨heffects, congrArg (·.2) hlast.world.wire, congrArg (·.2) hlast.world.endpoint,
    hlast.find?⟩

end Service

end ChatFlow
