import ChatFlow.Proofs.Bot.Handle
import ChatFlow.Proofs.Turn.Waiting
import ChatFlow.Proofs.Workflow.Index
import Mathlib.Logic.Function.Basic

/-!
# What a bot can come to

`Reaches b timeout st lives`: from an empty registry messages were handled, at whatever times and
in whatever state the world outside was then, and expired sessions were swept, and now the state is
`st`; `lives` tells what has happened in each conversation since its session was created. In such a
state the question that waits in a session is always one of the workflow, and the last step that was
executed (`armed_of_reaches`), so its answer is judged (`question_waits_and_resolves`).
-/

namespace ChatFlow.Bot

variable {κ : Type}

/-- What has happened in each conversation after one more message: a new session starts anew. -/
def live (b : Bot κ) (st : State κ) (lives : String → List Event) (now : Instant)
    (id text name : String) : String → List Event :=
  Function.update lives id
    ((if (st.registry.live? now id).isSome then lives id else []) ++
      (b.handle st now id text name).2)

/-- The states that a bot can come to, each with what has happened in its conversations. -/
inductive Reaches (b : Bot κ) (timeout : Option Rat) : State κ → (String → List Event) → Prop
  | start (world : κ) : Reaches b timeout ⟨.empty timeout, world⟩ fun _ => []
  | message {st : State κ} {lives : String → List Event} (hr : Reaches b timeout st lives)
      (now : Instant) (id text name : String) :
      Reaches b timeout (b.handle st now id text name).1 (b.live st lives now id text name)
  | purge {st : State κ} {lives : String → List Event} (hr : Reaches b timeout st lives)
      (now : Instant) : Reaches b timeout ⟨(st.registry.purge now).2.1, st.world⟩ lives
  | outside {st : State κ} {lives : String → List Event} (hr : Reaches b timeout st lives)
      (world : κ) : Reaches b timeout ⟨st.registry, world⟩ lives

theorem armed_hear (b : Bot κ) (t : Turn κ) (text : String) (past : List Event)
    (ht : Armed b.workflow b.rules t.session (past ++ t.events)) :
    Armed b.workflow b.rules (b.hear t text).session (past ++ (b.hear t text).events) := by
  -- What is only noted, or ends the conversation, changes nothing that counts here.
  have same {t' : Turn κ} (hs : t'.session = t.session) (hsteps : t'.steps = t.steps)
      (hm : t'.messages = t.messages) : Armed b.workflow b.rules t'.session (past ++ t'.events) := by
    rw [hs]
    refine ht.congr ?_ ?_
    · rw [Event.steps, Event.steps, List.filterMap_append, List.filterMap_append]
      exact congrArg (_ ++ ·) hsteps
    · rw [Event.messages, Event.messages, List.filterMap_append, List.filterMap_append]
      exact congrArg (_ ++ ·) hm
  unfold hear
  split
  · cases hq : b.workflow.question? t.session.waiting with
    | some n => rw [Turn.resume_of_some hq]; exact Turn.armed_judge t n _ text past ht
    | none => rw [Turn.resume_of_none hq, Turn.lose]; exact same (by simp) (by simp) (by simp [Turn.say])
  · exact same rfl (Turn.steps_note ..) (Turn.messages_note ..)

theorem armed_turn (b : Bot κ) (st : State κ) (now : Instant) (id text name : String)
    (past : List Event)
    (hst : ∀ s, st.registry.find? id = some s → Armed b.workflow b.rules s past) :
    Armed b.workflow b.rules (b.turn st now id text name).session
      ((if (st.registry.live? now id).isSome then past else []) ++
        (b.turn st now id text name).events) := by
  unfold turn
  cases hl : st.registry.live? now id with
  | none => exact Turn.armed_runFrom _ _ _ rfl
  | some s =>
    obtain ⟨s', hs', rfl⟩ := Option.map_eq_some_iff.1 hl
    refine b.armed_hear _ text past ?_
    rw [show (Turn.start (s'.touch now) st.world).events = [] from rfl, List.append_nil]
    exact (hst s' (Option.filter_eq_some_iff.1 hs').1).touch now

/-- What each message leaves true of its session and of what has happened in it, is true of every session
that a bot can come to: messages of others and sweeps take no part. -/
theorem Reaches.forall_session {b : Bot κ} {P : Session → List Event → Prop}
    (hmessage : ∀ (st : State κ) (lives : String → List Event) (now : Instant) (id text name : String),
      (∀ s, st.registry.find? id = some s → P s (lives id)) →
      (b.turn st now id text name).isLive = true →
      P (b.turn st now id text name).session (b.live st lives now id text name id))
    {timeout : Option Rat} {st : State κ} {lives : String → List Event}
    (hr : Reaches b timeout st lives) {c : String} {s : Session}
    (hs : st.registry.find? c = some s) : P s (lives c) := by
  induction hr generalizing c s with
  | start world => cases hs
  | @message st lives hr now id text name ih =>
    rw [find?_handle] at hs
    by_cases hid : id = c
    · subst hid
      rw [if_pos rfl] at hs
      split at hs <;> rename_i hlive <;> cases hs
      exact hmessage st lives now id text name (fun s hs => ih hs) hlive
    · rw [if_neg hid] at hs
      rw [live, Function.update_of_ne (Ne.symm hid)]
      exact ih hs
  | @purge st lives hr now ih =>
    rw [Registry.find?_purge] at hs
    exact ih (Option.filter_eq_some_iff.1 hs).1
  | outside hr world ih => exact ih hs

theorem filterMap_live {α : Type} {f : Event → Option α} (hf : ∀ e, f (.noted e) = none) (b : Bot κ)
    (st : State κ) (lives : String → List Event) (now : Instant) (id text name : String) :
    (b.live st lives now id text name id).filterMap f =
      ((if (st.registry.live? now id).isSome then lives id else []) ++
        (b.turn st now id text name).events).filterMap f := by
  rw [live, Function.update_self, List.filterMap_append, List.filterMap_append,
    b.filterMap_handle st now id text name hf]

theorem armed_of_reaches {b : Bot κ} {timeout : Option Rat} {st : State κ}
    {lives : String → List Event} (hr : Reaches b timeout st lives) (c : String) (s : Session)
    (hs : st.registry.find? c = some s) : Armed b.workflow b.rules s (lives c) := by
  refine hr.forall_session (P := Armed b.workflow b.rules) ?_ hs
  intro st lives now id text name hst _
  have ht := b.armed_turn st now id text name (lives id) hst
  exact ht.congr (b.filterMap_live (fun _ => rfl) ..) (b.filterMap_live (fun _ => rfl) ..)

theorem question?_of_awaits {definition : Json} {name : Option String} {w : Workflow}
    {log : List Log.Entry} (hw : Workflow.ofDefinition definition true name = .ok (w, log))
    {r : Rules} {s : Session} {es : List Event} {q : Node} (h : Awaits w r s es q) {id : String}
    (hid : s.waiting = some id) : w.question? s.waiting = some q := by
  refine Workflow.question?_eq_some_iff.2 ⟨?_, h.kind⟩
  rw [hid]
  exact Workflow.lookup?_of_mem hw h.mem (h.id.trans hid)

/-- The question that waits is always the right one. In every state that a bot with a strictly
loaded workflow can come to, a session waits on nothing, or on the id of a question of the workflow
that was the last step of the session and whose prompt was its last message. So when a message comes
to a session that waits, it is judged as an answer to that question; no session is ever lost over an
unknown one. -/
theorem question_waits_and_resolves {definition : Json} {name : Option String} {w : Workflow}
    {log : List Log.Entry} (hw : Workflow.ofDefinition definition true name = .ok (w, log))
    {rules : Rules} {o : Outside κ} {timeout : Option Rat} {st : State κ}
    {lives : String → List Event} (hr : Reaches ⟨w, rules, o⟩ timeout st lives) (c : String) :
    (∀ s, st.registry.find? c = some s → s.waiting = none ∨
      ∃ q m, w.lookup? s.waiting = some q ∧ q.kind = .question ∧
        (Event.steps (lives c)).getLast? = some q ∧
        q.prompt? rules s = some m ∧ (Event.messages (lives c)).getLast? = some m) ∧
    ∀ now text displayName s, st.registry.live? now c = some s → s.pending?.isSome →
      ∃ q, ∃ hq : q ∈ w.root.preorder, q.kind = .question ∧ q.id = s.waiting ∧
        turn ⟨w, rules, o⟩ st now c text displayName =
          (Turn.start s st.world).judge o w rules q hq text := by
  refine ⟨fun s hs => ?_, fun now text displayName s hl hp => ?_⟩
  · cases hid : s.waiting with
    | none => exact Or.inl rfl
    | some id =>
      obtain ⟨q, h⟩ := (armed_of_reaches hr c s hs).awaits hid
      obtain ⟨m, hm, hsent⟩ := h.lastMessage
      have hlook := (Workflow.question?_eq_some_iff.1 (question?_of_awaits hw h hid)).1
      exact Or.inr ⟨q, m, hid ▸ hlook, h.kind, h.lastStep, hm, hsent⟩
  · obtain ⟨s', hs', rfl⟩ := Option.map_eq_some_iff.1 hl
    obtain ⟨id, hp⟩ := Option.isSome_iff_exists.1 hp
    have hid : s'.waiting = some id := (Option.filter_eq_some_iff.1 hp).1
    obtain ⟨q, h⟩ := (armed_of_reaches hr c s' (Option.filter_eq_some_iff.1 hs').1).awaits hid
    have hq : w.question? s'.waiting = some q := question?_of_awaits hw h hid
    refine ⟨q, h.mem, h.kind, h.id, ?_⟩
    rw [turn, hl]
    show hear _ _ text = _
    rw [hear, show (Turn.start (s'.touch now) st.world).session.pending? = some id from hp]
    exact Turn.resume_of_some (t := Turn.start (s'.touch now) st.world) hq

/-- A greeting has been sent and asks for a name: the answer is judged as one to that question. -/
theorem question_waits_and_resolves_after_greeting :
    let question : Json := .obj [("question", .obj [("text", .str "Name?")])]
    let definition : Json := .obj [("type", .str "Trigger"), ("childs", .arr [
      .obj [("id", .int 1), ("type", .str "QuestionStep"), ("data", question)]])]
    let ask : Node := ⟨some "1", .question, [("question", .obj [("text", .str "Name?")])], []⟩
    let w : Workflow := ⟨⟨none, .other "Trigger", [], [ask]⟩, [("1", ask)], "greeting", fun h => by
      cases List.mem_singleton.1 (Assoc.mem_of_get? h)
      exact Node.mem_preorder_of_child List.mem_cons_self (Node.mem_preorder_self _)⟩
    let o : Outside Unit := ⟨fun _ _ => (.ok (), [], ()), fun _ _ => (none, ()), fun _ => none⟩
    let b : Bot Unit := ⟨w, ⟨3, 3, Rules.standardListButton⟩, o⟩
    let st := (b.handle ⟨.empty none, ()⟩ (.ofInt 0) "a" "hello" "Ada").1
    let s : Session := { Session.start (.ofInt 0) "a" "Ada" with waiting := some "1" }
    Workflow.ofDefinition definition true (some "greeting") = .ok (w, w.report) ∧
      st.registry.find? "a" = some s ∧
      (∃ q, w.lookup? s.waiting = some q ∧ q.kind = .question) ∧
      ∃ q, ∃ hq : q ∈ w.root.preorder, q.id = some "1" ∧
        b.turn st (.ofInt 5) "a" "Bob" "Ada" =
          (Turn.start (s.touch (.ofInt 5)) st.world).judge o w b.rules q hq "Bob" := by
  intro question definition ask w o b st s
  have hw : Workflow.ofDefinition definition true (some "greeting") = .ok (w, w.report) := rfl
  have hr : Reaches b none st _ := .message (.start ()) (.ofInt 0) "a" "hello" "Ada"
  have hask : ask ∈ w.root.preorder :=
    Node.mem_preorder_of_child List.mem_cons_self (Node.mem_preorder_self _)
  have hturn : b.turn ⟨.empty none, ()⟩ (.ofInt 0) "a" "hello" "Ada" =
      (Turn.start (Session.start (.ofInt 0) "a" "Ada") ()).run o w b.rules ask hask := rfl
  have hs : st.registry.find? "a" = some s := by
    rw [find?_handle, if_pos rfl, hturn, Turn.run_of_none hask rfl]; rfl
  have hl : st.registry.live? (.ofInt 5) "a" = some (s.touch (.ofInt 5)) := by
    rw [Registry.live?, hs, Option.filter_some, if_pos]
    · rfl
    · rw [Registry.isExpired, idleTimeout_handle]; rfl
  obtain ⟨hall, hjudge⟩ := question_waits_and_resolves hw hr "a"
  refine ⟨hw, hs, ?_, ?_⟩
  · rcases hall s hs with hno | ⟨q, _, hlook, hk, -⟩
    · cases hno
    · exact ⟨q, hlook, hk⟩
  · obtain ⟨q, hq, -, hid, hjudged⟩ := hjudge (.ofInt 5) "Bob" "Ada" _ hl rfl
    exact ⟨q, hq, hid, hjudged⟩

end ChatFlow.Bot
