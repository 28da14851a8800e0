import ChatFlow.Proofs.Bot.Handle
import ChatFlow.Proofs.Turn.Prompts

/-!
# What becomes of a message

A message that a bot handles has exactly one of four outcomes: a question is asked, the conversation
ends, its steps stop without a question, or the message is ignored (`message_has_one_outcome`). The
steps of a message are passes from an `opening`, which finds the first of them; whenever there is one
to execute, nothing has been asked and nothing was ended.
-/

namespace ChatFlow

namespace Turn

variable {κ : Type} {t t' : Turn κ} {r : Rules} {n : Node} {reply : String}

theorem messages_answer (t : Turn κ) (r : Rules) (n : Node) (reply : String) :
    (t.answer r n reply).2.messages = t.messages := by
  simp only [answer]
  split
  · rfl
  · split
    · rfl
    · rfl
    · simp only [refuse]
      split
      · exact messages_note ..
      · split
        · rw [messages_finish]
          exact (messages_note ..).trans (messages_note ..)
        · exact messages_note ..

/-- An answer that is refused once too often. -/
structure IsTooMany (s : Session) (r : Rules) (n : Node) (reply : String) : Prop where
  refused : ∃ d, n.read Step.QuestionData.decode = .ok d ∧ d.question.accepts reply = .ok false
  noBranch : n.after? .invalidAnswer = none
  capped : r.maxInvalidAttempts ≠ 0
  attempts : s.attempts n.label + 1 > r.maxInvalidAttempts

theorem answer_live_cases (t : Turn κ) (r : Rules) (n : Node) (reply : String) :
    (t.answer r n reply).2.isLive = t.isLive ∨
      IsTooMany t.session r n reply ∧ (t.answer r n reply).1 = .ok none ∧
        (t.answer r n reply).2.isLive = false := by
  unfold answer
  split
  · exact Or.inl rfl
  · rename_i d hd
    dsimp only
    split
    · exact Or.inl rfl
    · exact Or.inl rfl
    · rename_i hwrong
      simp only [refuse]
      split
      · exact Or.inl rfl
      · rename_i hno
        split
        · rename_i hcap
          exact Or.inr ⟨⟨⟨d, hd, hwrong⟩, hno, hcap.1, hcap.2⟩, rfl, isLive_finish _⟩
        · exact Or.inl rfl

theorem prompts_of_no_steps (h : t.steps = []) : t.prompts = [] :=
  Event.promptsFrom_of_steps h none

theorem steps_answer (t : Turn κ) (o : Outside κ) (r : Rules) (n : Node) (reply : String) :
    (t.answer r n reply).2.steps = t.steps :=
  (work_answer t o r n reply).steps_eq

theorem exists_iterate_pass_eq_runFrom (t : Turn κ) (o : Outside κ) (w : Workflow) (r : Rules)
    (next : Option Node) (hn : ∀ n, next = some n → n ∈ w.root.preorder) :
    ∃ k, (pass o w r)^[k] (next, t) = (none, t.runFrom o w r next hn) := by
  cases next with
  | none => exact ⟨0, rfl⟩
  | some n =>
    obtain ⟨k, -, hk, -⟩ := exists_iterate_pass_eq_run (o := o) (r := r) t n (hn n rfl)
    exact ⟨k, hk⟩

end Turn

namespace Bot

variable {κ : Type} (b : Bot κ) (st : State κ) (now : Instant) (id text name : String)

/-! ### How a message is met -/

/-- The first step that a message leads to, if any, and the turn up to there. -/
def opening (b : Bot κ) (st : State κ) (now : Instant) (id text name : String) :
    Option Node × Turn κ :=
  match st.registry.live? now id with
  | none => (b.workflow.entry?, Turn.start (Session.start now id name) st.world)
  | some s =>
    let t := Turn.start s st.world
    match s.pending?, b.workflow.question? s.waiting with
    | none, _ => (none, t.say .debug "Not waiting for an answer, ignoring message")
    | some _, none => (none, t.lose)
    | some _, some q => match t.answer b.rules q text with
      | (.error f, t') => (none, t'.fail ("Error processing answer to " ++ q.label) f)
      | (.ok next, t') => (next, t')

/-- A message is not acted on: no question waits, or the answer to it cannot be processed. -/
def Ignores (b : Bot κ) (st : State κ) (now : Instant) (id text : String) : Prop :=
  ∃ s, st.registry.live? now id = some s ∧ (s.pending? = none ∨ ∃ q f t',
    s.pending?.isSome ∧ b.workflow.question? s.waiting = some q ∧
      (Turn.start s st.world).answer b.rules q text = (.error f, t'))

/-- A message ends its conversation before any step: it is a wrong answer too many, or the question
that waits is unknown. -/
def Refuses (b : Bot κ) (st : State κ) (now : Instant) (id text : String) : Prop :=
  ∃ s, st.registry.live? now id = some s ∧ s.pending?.isSome ∧
    (b.workflow.question? s.waiting = none ∨
      ∃ q, b.workflow.question? s.waiting = some q ∧ Turn.IsTooMany s b.rules q text)

variable {b : Bot κ} {st : State κ} {now : Instant} {id text : String}

theorem exists_turn_eq_runFrom (b : Bot κ) (st : State κ) (now : Instant) (id text name : String) :
    ∃ hn, b.turn st now id text name = (b.opening st now id text name).2.runFrom b.outside
      b.workflow b.rules (b.opening st now id text name).1 hn := by
  unfold turn
  cases hl : st.registry.live? now id with
  | none =>
    have hx : b.opening st now id text name =
        (b.workflow.entry?, Turn.start (Session.start now id name) st.world) := by
      simp only [opening, hl]
    rw [hx]
    exact ⟨fun n hn => Workflow.mem_of_entry? hn, rfl⟩
  | some s =>
    dsimp only
    unfold hear
    cases hp : s.pending? with
    | none =>
      have hx : b.opening st now id text name =
          (none, (Turn.start s st.world).say .debug "Not waiting for an answer, ignoring message") := by
        simp only [opening, hl, hp]
      rw [hx, show (Turn.start s st.world).session.pending? = none from hp]
      exact ⟨nofun, rfl⟩
    | some id' =>
      rw [show (Turn.start s st.world).session.pending? = some id' from hp]
      cases hq : b.workflow.question? s.waiting with
      | none =>
        have hx : b.opening st now id text name = (none, (Turn.start s st.world).lose) := by
          simp only [opening, hl, hp, hq]
        rw [hx]
        exact ⟨nofun, Turn.resume_of_none (t := Turn.start s st.world) hq⟩
      | some q =>
        have hmem := Workflow.mem_of_question? hq
        dsimp only
        rw [Turn.resume_of_some (t := Turn.start s st.world) hq]
        match ha : (Turn.start s st.world).answer b.rules q text with
        | (.error f, t') =>
          have hx : b.opening st now id text name =
              (none, t'.fail ("Error processing answer to " ++ q.label) f) := by
            simp only [opening, hl, hp, hq, ha]
          rw [hx]
          exact ⟨nofun, Turn.judge_of_error hmem ha⟩
        | (.ok next, t') =>
          have hx : b.opening st now id text name = (next, t') := by
            simp only [opening, hl, hp, hq, ha]
          rw [hx]
          cases next with
          | none => exact ⟨nofun, Turn.judge_of_none hmem ha⟩
          | some m =>
            exact ⟨fun n hn => by cases hn; exact Turn.mem_of_answer hmem ha,
              Turn.judge_of_some hmem ha⟩

theorem exists_iterate_pass_eq_turn (b : Bot κ) (st : State κ) (now : Instant)
    (id text name : String) :
    ∃ k, (Turn.pass b.outside b.workflow b.rules)^[k] (b.opening st now id text name) =
      (none, b.turn st now id text name) := by
  obtain ⟨hn, hrun⟩ := exists_turn_eq_runFrom b st now id text name
  rw [hrun]
  exact Turn.exists_iterate_pass_eq_runFrom ..

/-- What a message comes to before its first step: a step is to be executed and nothing has been
asked, or the message is ignored, or it ends the conversation, or no step is there. -/
theorem opening_cases (b : Bot κ) (st : State κ) (now : Instant) (id text name : String) :
    let p := b.opening st now id text name
    p.2.steps = [] ∧ p.2.messages = [] ∧
      (p.1 = none ∧ b.Ignores st now id text ∧ p.2.isLive = true ∨
        p.1 = none ∧ b.Refuses st now id text ∧ p.2.isLive = false ∨
        ¬ b.Ignores st now id text ∧ p.2.Tidy) := by
  unfold opening
  cases hl : st.registry.live? now id with
  | none =>
    refine ⟨rfl, rfl, Or.inr (Or.inr ⟨?_, rfl, rfl, rfl⟩)⟩
    rintro ⟨s, hs, -⟩
    rw [hl] at hs; cases hs
  | some s =>
    dsimp only
    cases hp : s.pending? with
    | none => exact ⟨rfl, rfl, Or.inl ⟨rfl, ⟨s, hl, Or.inl hp⟩, rfl⟩⟩
    | some id' =>
      have hsome : s.pending?.isSome := by rw [hp]; rfl
      cases hq : b.workflow.question? s.waiting with
      | none =>
        refine ⟨Turn.steps_finish _, Turn.messages_finish _, Or.inr (Or.inl ⟨rfl, ?_, ?_⟩)⟩
        · exact ⟨s, hl, hsome, Or.inl hq⟩
        · exact Turn.isLive_finish _
      | some q =>
        have hsteps := Turn.steps_answer (Turn.start s st.world) b.outside b.rules q text
        have hmsgs := Turn.messages_answer (Turn.start s st.world) b.rules q text
        have hlive := Turn.answer_live_cases (Turn.start s st.world) b.rules q text
        have hwait := Turn.answer_cases (Turn.start s st.world) b.rules q text
        dsimp only
        match ha : (Turn.start s st.world).answer b.rules q text with
        | (.error f, t') =>
          rw [ha] at hsteps hmsgs hlive
          refine ⟨(Turn.steps_fail ..).trans hsteps, (Turn.messages_note ..).trans hmsgs,
            Or.inl ⟨rfl, ⟨s, hl, Or.inr ⟨q, f, t', hsome, hq, ha⟩⟩, ?_⟩⟩
          rcases hlive with hlive | ⟨-, hno, -⟩
          · exact hlive
          · cases hno
        | (.ok next, t') =>
          rw [ha] at hsteps hmsgs hlive hwait
          refine ⟨hsteps, hmsgs, ?_⟩
          · rcases hlive with hlive | ⟨hmany, hno, hlive⟩
            · refine Or.inr (Or.inr ⟨?_, hlive, ?_, Turn.prompts_of_no_steps hsteps⟩)
              · rintro ⟨s', hs', h⟩
                rw [hl] at hs'; cases hs'
                rcases h with h | ⟨q', f, u, -, hq', h⟩
                · rw [hp] at h; cases h
                · rw [hq] at hq'; cases hq'
                  rw [ha] at h; cases h
              · rcases hwait with ⟨f, hno⟩ | hwait
                · cases hno
                · exact hwait
            · cases hno
              exact Or.inr (Or.inl ⟨rfl, ⟨s, hl, hsome, Or.inr ⟨q, hq, hmany⟩⟩, hlive⟩)

/-! ### The four outcomes -/

inductive Outcome where
  | asked
  | ended
  | stopped
  | ignored
  deriving DecidableEq, Repr

/-- What an outcome means for the conversation of a message and for what was sent. -/
def HasOutcome (b : Bot κ) (st : State κ) (now : Instant) (id text name : String) : Outcome → Prop :=
  let p := b.handle st now id text name
  fun
  | .asked => ∃ q m s, q ∈ b.workflow.root.preorder ∧ q.kind = .question ∧
      Event.prompts p.2 = [(q, m)] ∧ (Event.messages p.2).getLast? = some m ∧
      p.1.registry.find? id = some s ∧ s.waiting = q.id ∧ q.prompt? b.rules s = some m
  | .ended => p.1.registry.find? id = none ∧ Event.prompts p.2 = [] ∧
      (b.Refuses st now id text ∧ Event.steps p.2 = [] ∨
        ∃ n, (Event.steps p.2).getLast? = some n ∧ n.kind = .action ∧ n.firstChild? = none)
  | .stopped => ¬ b.Ignores st now id text ∧ Event.prompts p.2 = [] ∧
      ∃ s, p.1.registry.find? id = some s ∧ s.waiting = none
  | .ignored => b.Ignores st now id text ∧ Event.messages p.2 = [] ∧ Event.steps p.2 = [] ∧
      (p.1.registry.find? id).isSome

/-- A turn after its opening: a question was asked, the conversation was ended, or there is no step
any more; if the message is ignored or ends the conversation, no step is ever executed. -/
theorem turn_cases (b : Bot κ) (st : State κ) (now : Instant) (id text name : String) :
    let t := b.turn st now id text name
    t.steps = [] ∧ t.messages = [] ∧ b.Ignores st now id text ∧ t.isLive = true ∨
      t.steps = [] ∧ b.Refuses st now id text ∧ t.isLive = false ∨
      ¬ b.Ignores st now id text ∧ Turn.Closed b.workflow b.rules t := by
  obtain ⟨hn, hrun⟩ := exists_turn_eq_runFrom b st now id text name
  obtain ⟨hsteps, hmsgs, hopen⟩ := opening_cases b st now id text name
  rw [hrun]
  generalize b.opening st now id text name = p at hsteps hmsgs hopen hn
  obtain ⟨next, t⟩ := p
  dsimp only at hsteps hmsgs hopen ⊢
  rcases hopen with ⟨rfl, hig, hlive⟩ | ⟨rfl, href, hlive⟩ | ⟨hig, ht⟩
  · exact Or.inl ⟨hsteps, hmsgs, hig, hlive⟩
  · exact Or.inr (Or.inl ⟨hsteps, href, hlive⟩)
  · refine Or.inr (Or.inr ⟨hig, ?_⟩)
    cases next with
    | none => exact Or.inr (Or.inr ht)
    | some n => exact Turn.closed_run t n (hn n rfl) ht

/-- What a message leaves and does, read off its turn. -/
theorem handle_view (b : Bot κ) (st : State κ) (now : Instant) (id text name : String) :
    let p := b.handle st now id text name
    let t := b.turn st now id text name
    p.1.registry.find? id = (if t.isLive then some t.session else none) ∧
      Event.prompts p.2 = t.prompts ∧ Event.messages p.2 = t.messages ∧
      Event.steps p.2 = t.steps := by
  refine ⟨by rw [find?_handle, if_pos rfl], ?_, b.filterMap_handle st now id text name fun _ => rfl,
    b.filterMap_handle st now id text name fun _ => rfl⟩
  obtain ⟨_, log, h, -⟩ := b.handle_eq st now id text name
  simp only [h]
  exact Event.prompts_noted_append ..

theorem exists_outcome (b : Bot κ) (st : State κ) (now : Instant) (id text name : String) :
    ∃ k, b.HasOutcome st now id text name k := by
  obtain ⟨hfind, hprompts, hmsgs, hsteps⟩ := b.handle_view st now id text name
  have ht := b.turn_cases st now id text name
  unfold HasOutcome
  generalize b.handle st now id text name = p at *
  generalize b.turn st now id text name = t at *
  dsimp only at hfind hprompts hmsgs hsteps ht ⊢
  simp only [hfind, hprompts, hmsgs, hsteps]
  rcases ht with ⟨hs, hm, hig, hlive⟩ | ⟨hs, href, hlive⟩ | ⟨hig, hc⟩
  · exact ⟨.ignored, hig, hm, hs, by simp [hlive]⟩
  · exact ⟨.ended, by simp [hlive], Turn.prompts_of_no_steps hs, Or.inl ⟨href, hs⟩⟩
  · rcases hc with ⟨q, m, hq⟩ | ⟨n, hn⟩ | ht
    · exact ⟨.asked, q, m, t.session, hq.mem, hq.kind, hq.prompts, hq.lastMessage, by simp [hq.isLive],
        hq.waiting, hq.prompt⟩
    · exact ⟨.ended, by simp [hn.isLive], hn.prompts, Or.inr ⟨n, hn.lastStep, hn.kind, hn.isFinal⟩⟩
    · exact ⟨.stopped, hig, ht.prompts, t.session, by simp [ht.isLive], ht.waiting⟩

open Classical in
/-- An outcome shows: in whether there still is a session, in whether there is a prompt, and in
whether the message was acted on. -/
theorem eq_of_hasOutcome {b : Bot κ} {st : State κ} {now : Instant} {id text name : String}
    {k : Outcome} (h : b.HasOutcome st now id text name k) :
    k = if ((b.handle st now id text name).1.registry.find? id).isNone then .ended
      else if Event.prompts (b.handle st now id text name).2 ≠ [] then .asked
      else if b.Ignores st now id text then .ignored else .stopped := by
  unfold HasOutcome at h
  cases k with
  | asked =>
    obtain ⟨q, m, s, -, -, hp, -, hs, -⟩ := h
    simp [hp, hs]
  | ended =>
    obtain ⟨hs, -⟩ := h
    simp [hs]
  | stopped =>
    obtain ⟨hig, hp, s, hs, -⟩ := h
    simp [hig, hp, hs]
  | ignored =>
    obtain ⟨hig, -, hsteps, hs⟩ := h
    obtain ⟨s, hs⟩ := Option.isSome_iff_exists.1 hs
    have hp := Event.promptsFrom_of_steps hsteps none
    simp [hig, Event.prompts, hp, hs]

/-- A message has exactly one outcome. A question is asked, whose prompt is the only one and the last
message, and the session waits for its answer; or the conversation has ended, over a final action, a
wrong answer too many or an unknown question, and there is no session any more; or the steps stopped
without a prompt and the session waits on nothing; or the message was not acted on, and nothing was
sent. No step is executed once a question has been asked or the conversation has ended. -/
theorem message_has_one_outcome (b : Bot κ) (st : State κ) (now : Instant)
    (id text name : String) :
    (∃! k, b.HasOutcome st now id text name k) ∧
    let passed (k : Nat) := (Turn.pass b.outside b.workflow b.rules)^[k]
      (b.opening st now id text name)
    (∃ k, passed k = (none, b.turn st now id text name)) ∧
    ∀ k n t, passed k = (some n, t) → t.isLive = true ∧ t.session.waiting = none ∧ t.prompts = [] := by
  obtain ⟨hn, hrun⟩ := exists_turn_eq_runFrom b st now id text name
  refine ⟨?_, ?_, fun k n t hk => ?_⟩
  · obtain ⟨k, hk⟩ := b.exists_outcome st now id text name
    exact ⟨k, hk, fun k' hk' => (eq_of_hasOutcome hk').trans (eq_of_hasOutcome hk).symm⟩
  · rw [hrun]
    exact Turn.exists_iterate_pass_eq_runFrom ..
  · obtain ⟨-, -, hopen⟩ := opening_cases b st now id text name
    generalize b.opening st now id text name = p at hk hn hopen
    obtain ⟨next, t₀⟩ := p
    dsimp only at hk
    have rest : (Turn.pass b.outside b.workflow b.rules)^[k] (none, t₀) = (none, t₀) :=
      Function.iterate_fixed rfl k
    rcases hopen with ⟨rfl, -⟩ | ⟨rfl, -⟩ | ⟨-, ht⟩
    · rw [rest] at hk; cases hk
    · rw [rest] at hk; cases hk
    · obtain ⟨ht, -⟩ := Turn.tidy_of_iterate ht hn k hk
      exact ⟨ht.isLive, ht.waiting, ht.prompts⟩

end Bot

end ChatFlow
