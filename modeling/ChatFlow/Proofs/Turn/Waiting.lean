import ChatFlow.Proofs.Turn.Session

/-!
# Which question waits

A session comes to wait only when a question has just been asked: `Armed` says so of a session and of
what has happened in it. A step that is no question leaves the pointer to the question alone
(`waiting_execute_of_ne`), an answer that can be judged clears it (`answer_cases`), and so a run
from a clear pointer ends armed (`armed_run`).
-/

namespace ChatFlow

open Step (QuestionData)

/-- The message that a question is asked with in a session. -/
def Node.prompt? (q : Node) (r : Rules) (s : Session) : Option Outbound :=
  match q.read QuestionData.decode with
  | .ok d => some ⟨s.id, r.prompt d.question (s.fill d.question.text)⟩
  | .error _ => none

/-- A session waits on a question: the question was the last step, its prompt the last message. -/
structure Awaits (w : Workflow) (r : Rules) (s : Session) (es : List Event) (q : Node) : Prop where
  mem : q ∈ w.root.preorder
  kind : q.kind = .question
  id : q.id = s.waiting
  lastStep : (Event.steps es).getLast? = some q
  lastMessage : ∃ m, q.prompt? r s = some m ∧ (Event.messages es).getLast? = some m

/-- A session waits on nothing or on a question. -/
def Armed (w : Workflow) (r : Rules) (s : Session) (es : List Event) : Prop :=
  s.waiting = none ∨ ∃ q, Awaits w r s es q

section

variable {w : Workflow} {r : Rules} {s : Session} {es es' : List Event} {q : Node}

theorem Awaits.congr (h : Awaits w r s es q) (hs : Event.steps es' = Event.steps es)
    (hm : Event.messages es' = Event.messages es) : Awaits w r s es' q :=
  ⟨h.mem, h.kind, h.id, hs ▸ h.lastStep, hm ▸ h.lastMessage⟩

theorem Armed.congr (h : Armed w r s es) (hs : Event.steps es' = Event.steps es)
    (hm : Event.messages es' = Event.messages es) : Armed w r s es' :=
  h.imp_right fun ⟨q, h⟩ => ⟨q, h.congr hs hm⟩

theorem Armed.after (h : Armed w r s es) (past : List Event) : Armed w r s (past ++ es) := by
  refine h.imp_right fun ⟨q, h⟩ => ⟨q, h.mem, h.kind, h.id, ?_, ?_⟩
  · rw [Event.steps, List.filterMap_append, List.getLast?_append]
    exact Option.or_eq_some_iff.2 (Or.inl h.lastStep)
  · obtain ⟨m, hp, hm⟩ := h.lastMessage
    refine ⟨m, hp, ?_⟩
    rw [Event.messages, List.filterMap_append, List.getLast?_append]
    exact Option.or_eq_some_iff.2 (Or.inl hm)

theorem Armed.awaits (h : Armed w r s es) {id : String} (hid : s.waiting = some id) :
    ∃ q, Awaits w r s es q := by
  rcases h with h | h
  · rw [h] at hid; cases hid
  · exact h

theorem Armed.touch (h : Armed w r s es) (now : Instant) : Armed w r (s.touch now) es :=
  h.imp_right fun ⟨q, h⟩ => ⟨q, h.mem, h.kind, h.id, h.lastStep, h.lastMessage⟩

end

namespace Turn

variable {κ : Type} {o : Outside κ} {w : Workflow} {r : Rules}

theorem ask_cases (t : Turn κ) (o : Outside κ) (r : Rules) (n : Node) :
    (∃ f t', t.ask o r n = (.error f, t') ∧ t'.session = t.session) ∨
      ∃ t' m, t.ask o r n = (.ok none, t') ∧ t'.session = { t.session with waiting := n.id } ∧
        n.prompt? r t.session = some m ∧ t'.messages = t.messages ++ [m] := by
  unfold ask
  split
  · exact Or.inl ⟨_, _, rfl, rfl⟩
  · rename_i d hd
    have hs := session_send t o (r.prompt d.question (t.session.fill d.question.text))
    split <;> rename_i heq <;> rw [heq] at hs
    · exact Or.inl ⟨_, _, rfl, hs⟩
    · have hm := messages_of_send heq
      exact Or.inr ⟨_, _, rfl, congrArg (fun s => { s with waiting := n.id }) hs,
        by rw [Node.prompt?, hd], hm⟩

theorem waiting_execute_of_ne {n : Node} (hk : n.kind ≠ .question) (t : Turn κ) (o : Outside κ)
    (w : Workflow) (r : Rules) : (t.execute o w r n).2.session.waiting = t.session.waiting :=
  (touches_execute t o w r n).waiting_of_ne hk

/-- A step that goes on or fails leaves the pointer alone; one that is over may have armed it. -/
theorem execute_waiting_cases (t : Turn κ) (n : Node) :
    (t.execute o w r n).2.session.waiting = t.session.waiting ∨
      n.kind = .question ∧ ∃ t' m, t.execute o w r n = (.ok none, t') ∧
        t'.session = { t.session with waiting := n.id } ∧
        n.prompt? r t.session = some m ∧ t'.messages = t.messages ++ [m] := by
  by_cases hk : n.kind = .question
  · have hx : t.execute o w r n = t.ask o r n := by rw [execute, hk]
    rw [hx]
    rcases t.ask_cases o r n with ⟨f, t', h, hs⟩ | h
    · exact Or.inl (by rw [h, hs])
    · exact Or.inr ⟨hk, h⟩
  · exact Or.inl (waiting_execute_of_ne hk t o w r)

theorem armed_execute (t : Turn κ) {n : Node} (hn : n ∈ w.root.preorder)
    (ht : t.session.waiting = none) :
    Armed w r ((t.begin n).execute o w r n).2.session ((t.begin n).execute o w r n).2.events := by
  rcases execute_waiting_cases (o := o) (w := w) (r := r) (t.begin n) n with
    hw | ⟨hk, t', m, hx, hs, hm, hsent⟩
  · exact Or.inl (hw.trans ht)
  · have hsteps := steps_execute_begin t o w r n
    rw [hx] at hsteps ⊢
    refine Or.inr ⟨n, hn, hk, by rw [hs], ?_, m, by rw [hs]; exact hm, ?_⟩
    · show t'.steps.getLast? = some n
      rw [show t'.steps = _ from hsteps, List.getLast?_concat]
    · show t'.messages.getLast? = some m
      rw [hsent, List.getLast?_concat]

theorem armed_run (t : Turn κ) (n : Node) (hn : n ∈ w.root.preorder)
    (ht : t.session.waiting = none) :
    Armed w r (t.run o w r n hn).session (t.run o w r n hn).events := by
  fun_induction Turn.run t o w r n hn with
  | case1 t n hn f t' h =>
    have ha := armed_execute (o := o) (r := r) t hn ht
    rw [h] at ha
    exact ha.congr (steps_fail ..) (messages_note ..)
  | case2 t n hn t' h =>
    have ha := armed_execute (o := o) (r := r) t hn ht
    rwa [h] at ha
  | case3 t n hn t' m h ih =>
    refine ih ?_
    -- A question that was asked has no next step, so the pointer is still clear.
    rcases execute_waiting_cases (o := o) (w := w) (r := r) (t.begin n) n with
      hw | ⟨-, _, _, hx, -⟩
    · rw [h] at hw
      exact hw.trans ht
    · rw [h] at hx
      cases hx

theorem armed_runFrom (t : Turn κ) (next : Option Node)
    (hn : ∀ n, next = some n → n ∈ w.root.preorder) (ht : t.session.waiting = none) :
    Armed w r (t.runFrom o w r next hn).session (t.runFrom o w r next hn).events := by
  cases next with
  | none => exact Or.inl ht
  | some n => exact armed_run t n (hn n rfl) ht

theorem answer_cases (t : Turn κ) (r : Rules) (n : Node) (reply : String) :
    (∃ f, t.answer r n reply = (.error f, t)) ∨
      (t.answer r n reply).2.session.waiting = none := by
  unfold answer
  split
  · exact Or.inl ⟨_, rfl⟩
  · rename_i d _
    refine Or.inr ?_
    dsimp only
    split
    · rfl
    · simp only [take, modify]
      split <;> simp
    · simp only [refuse]
      split
      · rfl
      · split
        · rw [session_finish]; rfl
        · rfl

theorem armed_judge (t : Turn κ) (n : Node) (hn : n ∈ w.root.preorder) (reply : String)
    (past : List Event) (ht : Armed w r t.session (past ++ t.events)) :
    Armed w r (t.judge o w r n hn reply).session (past ++ (t.judge o w r n hn reply).events) := by
  have hc := t.answer_cases r n reply
  match h : t.answer r n reply with
  | (.error f, t') =>
    rw [judge_of_error hn h]
    rw [h] at hc
    rcases hc with ⟨f', hc⟩ | hc
    · cases hc
      refine ht.congr ?_ ?_ <;> simp [Event.steps, Event.messages, fail, note, record, Event.begun?,
        Event.sent?]
    · exact Or.inl hc
  | (.ok none, t') =>
    rw [judge_of_none hn h]
    rw [h] at hc
    rcases hc with ⟨f', hc⟩ | hc
    · cases hc
    · exact Or.inl hc
  | (.ok (some m), t') =>
    rw [judge_of_some hn h]
    rw [h] at hc
    rcases hc with ⟨f', hc⟩ | hc
    · cases hc
    · exact (armed_run t' m _ hc).after past

end Turn

end ChatFlow
