import ChatFlow.Proofs.Bot.Lifetime

/-!
# Which prompts can be answered

A question that was asked waits under its id, and a session waits on no empty id. So the reply to a
prompt is judged exactly if its question has an id that is not empty and offers what can be read
(`prompt_is_judged_iff`); without such an id the reply is ignored, like all that follow it.
-/

namespace ChatFlow

open Step (QuestionData)

/-- A question that a session can wait on. -/
def Node.HasName (q : Node) : Prop := ∃ id, q.id = some id ∧ id ≠ ""

/-- A question that a session can wait on and that can judge replies. -/
def Node.IsAnswerable (q : Node) : Prop := q.HasName ∧ ∀ f, ¬ q.Unjudgeable f

theorem Session.pending?_isSome_iff {s : Session} {q : Node} (h : s.waiting = q.id) :
    s.pending?.isSome ↔ q.HasName := by
  rw [Option.isSome_iff_exists, Node.HasName]
  simp only [pending?, Option.filter_eq_some_iff, h, Bool.not_eq_true', String.isEmpty_eq_false_iff]

namespace Turn

variable {κ : Type} {t : Turn κ} {r : Rules} {q : Node} {d : QuestionData} {reply : String}

theorem answer_of_accepts (hd : q.read QuestionData.decode = .ok d) {v : Bool}
    (hv : d.question.accepts reply = .ok v) :
    t.answer r q reply =
      if v then (t.modify fun s => { s with waiting := none }).take q d reply
      else (t.modify fun s => { s with waiting := none }).refuse r q reply := by
  simp only [answer, hd, hv]
  cases v <;> rfl

end Turn

namespace Bot

variable {κ : Type}

/-- What a bot comes to from a state while a conversation is silent: messages of others are handled,
and sweeps do not find the conversation idle for too long. -/
inductive Meanwhile (b : Bot κ) (c : String) (st : State κ) : State κ → Prop
  | refl : Meanwhile b c st st
  | message {later : State κ} (h : Meanwhile b c st later) (now : Instant) {id : String}
      (hid : id ≠ c) (text name : String) : Meanwhile b c st (b.handle later now id text name).1
  | purge {later : State κ} (h : Meanwhile b c st later) (now : Instant)
      (hlive : ∀ s, later.registry.find? c = some s → later.registry.isExpired now s = false) :
      Meanwhile b c st ⟨(later.registry.purge now).2.1, later.world⟩
  | outside {later : State κ} (h : Meanwhile b c st later) (world : κ) :
      Meanwhile b c st ⟨later.registry, world⟩

variable {b : Bot κ} {st later : State κ} {c : String}

theorem Meanwhile.keeps (h : Meanwhile b c st later) :
    later.registry.find? c = st.registry.find? c ∧
      later.registry.idleTimeout = st.registry.idleTimeout := by
  induction h with
  | refl => exact ⟨rfl, rfl⟩
  | message _ now hid text name ih =>
    exact ⟨by rw [find?_handle, if_neg hid, ih.1], by rw [idleTimeout_handle, ih.2]⟩
  | @purge later _ now hlive ih =>
    refine ⟨?_, ih.2⟩
    rw [Registry.find?_purge, ← ih.1]
    cases hs : later.registry.find? c with
    | none => rfl
    | some s => rw [Option.filter_some, hlive s hs]; rfl
  | outside _ world ih => exact ih

theorem Meanwhile.live? (h : Meanwhile b c st later) {s : Session}
    (hs : st.registry.find? c = some s) {now : Instant}
    (hlive : st.registry.isExpired now s = false) :
    later.registry.live? now c = some (s.touch now) := by
  refine Registry.live?_of_find? (h.keeps.1.trans hs) ?_
  exact (Registry.isExpired_congr h.keeps.2 now s).trans hlive

/-- The question of a prompt was asked last and waits for the answer. -/
theorem asked_of_mem_prompts (b : Bot κ) (st : State κ) (now : Instant) (id text name : String)
    {q : Node} {m : Outbound} (hq : (q, m) ∈ Event.prompts (b.handle st now id text name).2) :
    q ∈ b.workflow.root.preorder ∧ q.kind = .question ∧
      (Event.messages (b.handle st now id text name).2).getLast? = some m ∧
      ∃ s, (b.handle st now id text name).1.registry.find? id = some s ∧ s.waiting = q.id ∧
        ∃ d, q.read QuestionData.decode = .ok d := by
  obtain ⟨k, hk⟩ := b.exists_outcome st now id text name
  cases k with
  | asked =>
    obtain ⟨q', m', s, hmem, hkind, hp, hlast, hs, hwait, hprompt⟩ := hk
    rw [hp] at hq
    cases List.mem_singleton.1 hq
    refine ⟨hmem, hkind, hlast, s, hs, hwait, ?_⟩
    unfold Node.prompt? at hprompt
    split at hprompt
    · exact ⟨_, ‹_›⟩
    · cases hprompt
  | ended => rw [hk.2.1] at hq; cases hq
  | stopped => rw [hk.2.1] at hq; cases hq
  | ignored =>
    rw [Event.prompts, Event.promptsFrom_of_steps hk.2.2.1] at hq
    cases hq

/-! ### The reply -/

section Reply

variable {now : Instant} {s : Session} {q : Node} {d : QuestionData} {text : String}

theorem turn_of_not_hasName (hl : st.registry.live? now c = some s) (hwait : s.waiting = q.id)
    (hno : ¬ q.HasName) (name : String) :
    b.turn st now c text name =
      (Turn.start s st.world).say .debug "Not waiting for an answer, ignoring message" := by
  have hp : s.pending? = none := by
    rw [← Option.not_isSome_iff_eq_none, Session.pending?_isSome_iff hwait]
    exact hno
  rw [turn, hl]
  simp only [hear, Turn.start, hp]

theorem turn_of_hasName (hl : st.registry.live? now c = some s) (hwait : s.waiting = q.id)
    (hname : q.HasName) (hq : b.workflow.question? s.waiting = some q) (name : String) :
    ∃ hn, b.turn st now c text name =
      (Turn.start s st.world).judge b.outside b.workflow b.rules q hn text := by
  obtain ⟨id, hp⟩ := Option.isSome_iff_exists.1 ((Session.pending?_isSome_iff hwait).2 hname)
  refine ⟨Workflow.mem_of_question? hq, ?_⟩
  rw [turn, hl]
  show hear _ _ text = _
  rw [hear, show (Turn.start s st.world).session.pending? = some id from hp]
  exact Turn.resume_of_some (t := Turn.start s st.world) hq

theorem verdict?_of_not_hasName (hl : st.registry.live? now c = some s) (hwait : s.waiting = q.id)
    (hno : ¬ q.HasName) : b.verdict? st now c text = none := by
  have hp : s.pending? = none := by
    rw [← Option.not_isSome_iff_eq_none, Session.pending?_isSome_iff hwait]
    exact hno
  simp [verdict?, hl, hp]

theorem verdict?_of_hasName (hl : st.registry.live? now c = some s) (hwait : s.waiting = q.id)
    (hname : q.HasName) (hq : b.workflow.question? s.waiting = some q)
    (hd : q.read QuestionData.decode = .ok d) :
    b.verdict? st now c text = (d.question.accepts text).toOption := by
  obtain ⟨id, hp⟩ := Option.isSome_iff_exists.1 ((Session.pending?_isSome_iff hwait).2 hname)
  simp [verdict?, hl, hp, hq, hd, Except.toOption]

/-- A question that can be read judges all replies, or none since what it offers cannot be read. -/
theorem isSome_accepts_iff (hd : q.read QuestionData.decode = .ok d) :
    (d.question.accepts text).toOption.isSome ↔ ∀ f, ¬ q.Unjudgeable f := by
  cases hv : d.question.accepts text with
  | ok v =>
    refine ⟨fun _ f hf => ?_, fun _ => rfl⟩
    rcases hf with hd' | ⟨d', hd', hform, hrows⟩
    · rw [hd] at hd'; cases hd'
    · rw [hd] at hd'; cases hd'
      have hno : d.question.accepts text = .error f :=
        Step.Question.accepts_eq_error_iff.2 ⟨hform, hrows⟩
      rw [hv] at hno; cases hno
  | error f =>
    obtain ⟨hform, hrows⟩ := Step.Question.accepts_eq_error_iff.1 hv
    exact iff_of_false (fun h => by cases h) fun h => h f (.rows d hd hform hrows)

end Reply

/-- Which prompts can be answered. If a message is answered with the prompt of a question, that was
the last message, and the question waits. Whatever others do meanwhile, the next message of the
conversation is judged exactly if the question has an id that is not empty and can judge replies,
unless the session has been idle for too long: it is taken as the answer if the question accepts it,
and refused if not. If the question has no id or an empty one, the message is ignored. -/
theorem prompt_is_judged_iff {definition : Json} {name : Option String} {w : Workflow}
    {log : List Log.Entry} (hw : Workflow.ofDefinition definition true name = .ok (w, log))
    {rules : Rules} {o : Outside κ} {st : State κ} {now : Instant} {c text displayName : String}
    {q : Node} {m : Outbound}
    (hq : (q, m) ∈ Event.prompts (handle ⟨w, rules, o⟩ st now c text displayName).2) :
    let b : Bot κ := ⟨w, rules, o⟩
    let asked := (b.handle st now c text displayName).1
    (Event.messages (b.handle st now c text displayName).2).getLast? = some m ∧
    q.kind = .question ∧
    ∃ s d, asked.registry.find? c = some s ∧ s.waiting = q.id ∧
      q.read QuestionData.decode = .ok d ∧
      ∀ later, Meanwhile b c asked later → ∀ now', asked.registry.isExpired now' s = false →
        ∀ reply displayName',
          let t := Turn.start (s.touch now') later.world
          ((b.verdict? later now' c reply).isSome ↔ q.IsAnswerable) ∧
          (∀ v, b.verdict? later now' c reply = some v → d.question.accepts reply = .ok v ∧
            t.answer rules q reply =
              if v then (t.modify fun s => { s with waiting := none }).take q d reply
              else (t.modify fun s => { s with waiting := none }).refuse rules q reply) ∧
          (q.HasName → ∃ hn, b.turn later now' c reply displayName' = t.judge o w rules q hn reply) ∧
          (¬ q.HasName → b.turn later now' c reply displayName' =
            t.say .debug "Not waiting for an answer, ignoring message") := by
  intro b asked
  obtain ⟨hmem, hkind, hlast, s, hs, hwait, d, hd⟩ :=
    b.asked_of_mem_prompts st now c text displayName hq
  refine ⟨hlast, hkind, s, d, hs, hwait, hd, fun later hlater now' hlive reply displayName' => ?_⟩
  intro t
  have hl : later.registry.live? now' c = some (s.touch now') := hlater.live? hs hlive
  by_cases hname : q.HasName
  · have hfind : b.workflow.question? (s.touch now').waiting = some q := by
      obtain ⟨id, hid, -⟩ := hname
      refine Workflow.question?_eq_some_iff.2 ⟨?_, hkind⟩
      rw [show (s.touch now').waiting = some id from hwait.trans hid]
      exact Workflow.lookup?_of_mem hw hmem hid
    have hverdict : b.verdict? later now' c reply = (d.question.accepts reply).toOption :=
      verdict?_of_hasName hl hwait hname hfind hd
    refine ⟨?_, fun v hv => ?_, fun _ => turn_of_hasName hl hwait hname hfind displayName',
      fun hno => absurd hname hno⟩
    · rw [hverdict, isSome_accepts_iff hd]
      exact ⟨fun h => ⟨hname, h⟩, fun h => h.2⟩
    · rw [hverdict] at hv
      have hok : d.question.accepts reply = .ok v := by
        cases ha : d.question.accepts reply with
        | ok v' => rw [ha] at hv; cases hv; rfl
        | error f => rw [ha] at hv; cases hv
      exact ⟨hok, Turn.answer_of_accepts hd hok⟩
  · have hverdict : b.verdict? later now' c reply = none := verdict?_of_not_hasName hl hwait hname
    refine ⟨⟨fun h => ?_, fun h => absurd h.1 hname⟩, fun v hv => ?_, fun h => absurd h hname,
      fun _ => turn_of_not_hasName hl hwait hname displayName'⟩
    · rw [hverdict] at h; cases h
    · rw [hverdict] at hv; cases hv

/-- A question with an empty id is in the index and is asked, but the reply to it is ignored. -/
theorem prompt_is_judged_iff_empty_id :
    let payload : Assoc Json := [("question", .obj [("type", .str "text"), ("text", .str "Name?")])]
    let definition : Json := .obj [("type", .str "Root"), ("childs", .arr [
      .obj [("id", .str ""), ("type", .str "QuestionStep"), ("data", .obj payload)]])]
    let ask : Node := ⟨some "", .question, payload, []⟩
    let w : Workflow := ⟨⟨none, .other "Root", [], [ask]⟩, [("", ask)], "name", fun h => by
      cases List.mem_singleton.1 (Assoc.mem_of_get? h)
      exact Node.mem_preorder_of_child List.mem_cons_self (Node.mem_preorder_self _)⟩
    let o : Outside Unit := ⟨fun _ _ => (.ok (), [], ()), fun _ _ => (none, ()), fun _ => none⟩
    let b : Bot Unit := ⟨w, ⟨10, 3, Rules.standardListButton⟩, o⟩
    let asked := (b.handle ⟨.empty none, ()⟩ (.ofInt 0) "c" "hi" "Sara").1
    let s : Session := { Session.start (.ofInt 0) "c" "Sara" with waiting := some "" }
    Workflow.ofDefinition definition true (some "name") = .ok (w, w.report) ∧
      (ask, ⟨"c", .text "Name?"⟩) ∈
        Event.prompts (b.handle ⟨.empty none, ()⟩ (.ofInt 0) "c" "hi" "Sara").2 ∧
      w.lookup? (some "") = some ask ∧ asked.registry.find? "c" = some s ∧
      b.verdict? asked (.ofInt 5) "c" "Sara" = none ∧
      b.turn asked (.ofInt 5) "c" "Sara" "Sara" =
        (Turn.start (s.touch (.ofInt 5)) asked.world).say .debug
          "Not waiting for an answer, ignoring message" := by
  intro payload definition ask w o b asked s
  have hw : Workflow.ofDefinition definition true (some "name") = .ok (w, w.report) := rfl
  have hask : ask ∈ w.root.preorder :=
    Node.mem_preorder_of_child List.mem_cons_self (Node.mem_preorder_self _)
  let first := (Turn.start (Session.start (.ofInt 0) "c" "Sara") ()).begin ask
  have hturn : b.turn ⟨.empty none, ()⟩ (.ofInt 0) "c" "hi" "Sara" =
      (first.execute o w b.rules ask).2 :=
    Turn.run_of_none (t := Turn.start (Session.start (.ofInt 0) "c" "Sara") ()) hask rfl
  obtain ⟨hfind, hprompts, -, -⟩ := b.handle_view ⟨.empty none, ()⟩ (.ofInt 0) "c" "hi" "Sara"
  rw [hturn] at hfind hprompts
  have hs : asked.registry.find? "c" = some s := hfind
  have hprompt : (ask, ⟨"c", .text "Name?"⟩) ∈
      Event.prompts (b.handle ⟨.empty none, ()⟩ (.ofInt 0) "c" "hi" "Sara").2 := by
    rw [hprompts]; exact List.mem_singleton.2 rfl
  obtain ⟨-, -, s', d, hs', -, -, hreply⟩ := prompt_is_judged_iff hw hprompt
  obtain rfl : s = s' := Option.some.inj (hs.symm.trans hs')
  have hlive : asked.registry.isExpired (.ofInt 5) s = false := by
    rw [Registry.isExpired, idleTimeout_handle]; rfl
  have hno : ¬ ask.HasName := by
    rintro ⟨id, hid, hne⟩
    exact hne (Option.some.inj hid).symm
  obtain ⟨hjudged, -, -, hignored⟩ := hreply asked .refl (.ofInt 5) hlive "Sara" "Sara"
  refine ⟨hw, hprompt, rfl, hs, ?_, hignored hno⟩
  rw [← Option.not_isSome_iff_eq_none, hjudged]
  exact fun h => hno h.1

end Bot

end ChatFlow
