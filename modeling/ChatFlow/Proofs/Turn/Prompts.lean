import ChatFlow.Proofs.Turn.Length
import ChatFlow.Proofs.Turn.Waiting

/-!
# What is asked in a turn

`Event.prompts` finds the prompts among the messages of a turn: those that were sent while a question
was executed. As long as steps follow each other nothing has been asked, the pointer to the question
is clear and the conversation goes on (`Turn.Tidy`, kept by `tidy_of_pass`). So a run comes to one
of three ends: its last step has asked, has ended the conversation, or has just no step after it
(`closed_run`).
-/

namespace ChatFlow

namespace Event

/-- The question that is executed after some events, if it is one; `q` is the one before them. -/
def askingFrom : Option Node → List Event → Option Node
  | q, [] => q
  | _, .begun n :: es => askingFrom (if n.kind = .question then some n else none) es
  | q, _ :: es => askingFrom q es

/-- The messages that were sent while a question was executed, each with that question; `q` is the
one that is executed before the first event. -/
def promptsFrom : Option Node → List Event → List (Node × Outbound)
  | _, [] => []
  | _, .begun n :: es => promptsFrom (if n.kind = .question then some n else none) es
  | some q, .sent m :: es => (q, m) :: promptsFrom (some q) es
  | q, _ :: es => promptsFrom q es

/-- The prompts among some events, each with its question. -/
def prompts (es : List Event) : List (Node × Outbound) := promptsFrom none es

theorem askingFrom_append (q : Option Node) (es es' : List Event) :
    askingFrom q (es ++ es') = askingFrom (askingFrom q es) es' := by
  induction es generalizing q with
  | nil => rfl
  | cons e es ih => cases e <;> exact ih _

theorem promptsFrom_append (q : Option Node) (es es' : List Event) :
    promptsFrom q (es ++ es') = promptsFrom q es ++ promptsFrom (askingFrom q es) es' := by
  induction es generalizing q with
  | nil => rfl
  | cons e es ih =>
    cases e with
    | begun n => exact ih _
    | sent m =>
      cases q with
      | none => exact ih none
      | some q => exact congrArg _ (ih (some q))
    | called c => cases q <;> exact ih _
    | noted e => cases q <;> exact ih _

/-- Within one step either every message is a prompt or none is. -/
theorem promptsFrom_of_steps {es : List Event} (h : steps es = []) (q : Option Node) :
    promptsFrom q es = match q with
      | some q => (messages es).map (q, ·)
      | none => [] := by
  induction es with
  | nil => cases q <;> rfl
  | cons e es ih =>
    cases e with
    | begun n => cases h
    | sent m =>
      cases q with
      | none => exact ih h
      | some q => exact congrArg ((q, m) :: ·) (ih h)
    | called c => cases q <;> exact ih h
    | noted e => cases q <;> exact ih h

@[simp] theorem promptsFrom_noted (q : Option Node) (log : List Log.Entry) :
    promptsFrom q (Bot.noted log) = [] := by
  induction log with
  | nil => rfl
  | cons e log ih => cases q <;> exact ih

theorem askingFrom_noted (q : Option Node) (log : List Log.Entry) :
    askingFrom q (Bot.noted log) = q := by
  induction log with
  | nil => rfl
  | cons e log ih => exact ih

theorem prompts_noted_append (log : List Log.Entry) (es : List Event) :
    prompts (Bot.noted log ++ es) = prompts es := by
  rw [prompts, promptsFrom_append, promptsFrom_noted, askingFrom_noted]; rfl

end Event

namespace Turn

variable {κ : Type} {o : Outside κ} {w : Workflow} {r : Rules} {t t' : Turn κ}

/-- The prompts of a turn, each with its question. -/
def prompts (t : Turn κ) : List (Node × Outbound) := Event.prompts t.events

@[simp] theorem prompts_note (t : Turn κ) (e : Log.Entry) : (t.note e).prompts = t.prompts := by
  show Event.promptsFrom none (t.events ++ [.noted e]) = _
  rw [Event.promptsFrom_append]
  cases Event.askingFrom none t.events <;> exact List.append_nil _

/-! ### One step -/

theorem prompts_begin (t : Turn κ) (n : Node) : (t.begin n).prompts = t.prompts := by
  show Event.promptsFrom none ((t.events ++ [.begun n]) ++ [.noted _]) = _
  rw [List.append_assoc, Event.promptsFrom_append]
  have hnew (q : Option Node) (e : Log.Entry) : Event.promptsFrom q [.begun n, .noted e] = [] := by
    simp [Event.promptsFrom]
  exact (congrArg _ (hnew _ _)).trans (List.append_nil _)

theorem asking_begin (t : Turn κ) (n : Node) :
    Event.askingFrom none (t.begin n).events = if n.kind = .question then some n else none := by
  show Event.askingFrom none ((t.events ++ [.begun n]) ++ [.noted _]) = _
  rw [List.append_assoc, Event.askingFrom_append]; rfl

theorem messages_begin (t : Turn κ) (n : Node) : (t.begin n).messages = t.messages := by
  simp [begin, say, messages, Event.messages, record, note, Event.sent?]

/-- The prompts of a step that has begun: all that a question sends, and nothing of what any other
step sends. -/
theorem prompts_of_work {n : Node} (h : Work o (t.begin n) t') :
    t'.prompts = t.prompts ++
      if n.kind = .question then (t'.messages.drop t.messages.length).map (n, ·) else [] := by
  obtain ⟨es, hes, -⟩ := h.precedes.events
  have hsteps : Event.steps es = [] := by
    have hall := h.steps_eq
    rw [steps, hes, Event.steps, List.filterMap_append] at hall
    exact List.append_right_eq_self.1 hall
  have hmsgs : t'.messages = t.messages ++ Event.messages es := by
    rw [messages, hes, Event.messages, List.filterMap_append]
    exact congrArg (· ++ _) (messages_begin t n)
  rw [prompts, Event.prompts, hes, Event.promptsFrom_append, Event.promptsFrom_of_steps hsteps,
    asking_begin, show Event.promptsFrom none (t.begin n).events = t.prompts from prompts_begin t n,
    hmsgs, List.drop_left]
  by_cases hk : n.kind = .question <;> simp [hk]

@[simp] theorem isLive_noteAll (t : Turn κ) (es : List Log.Entry) :
    (t.noteAll es).isLive = t.isLive := by
  induction es generalizing t with
  | nil => rfl
  | cons e es ih => exact ih (t.note e)

@[simp] theorem isLive_send (t : Turn κ) (o : Outside κ) (c : Content) :
    (t.send o c).2.isLive = t.isLive := by
  simp only [send]
  split
  · exact isLive_noteAll _ _
  · exact isLive_noteAll _ _

@[simp] theorem isLive_call (t : Turn κ) (o : Outside κ) (r : Step.Request) :
    (t.call o r).2.isLive = t.isLive := by
  simp only [call]
  split
  · rfl
  · split <;> rfl

@[simp] theorem isLive_finish (t : Turn κ) : t.finish.isLive = false := by
  unfold finish
  cases h : t.isLive
  · exact h
  · rfl

theorem messages_of_send_error {c : Content} {f : Fault} (h : t.send o c = (.error f, t')) :
    t'.messages = t.messages := by
  simp only [send] at h
  split at h
  · cases h
  · rename_i log world _
    cases h
    exact messages_noteAll { t with world } log

theorem messages_of_ask_error {n : Node} {f : Fault} (h : t.ask o r n = (.error f, t')) :
    t'.messages = t.messages := by
  unfold ask at h
  split at h
  · cases h; rfl
  · split at h
    · rename_i heq
      cases h
      exact messages_of_send_error heq
    · cases h

theorem isLive_sendItems (t : Turn κ) (o : Outside κ) (is : List Step.ActionItem) :
    (sendItems o t is).2.isLive = t.isLive := by
  induction is generalizing t with
  | nil => rfl
  | cons i is ih =>
    simp only [sendItems]
    split
    · exact ih t
    · rename_i text _
      have hs := isLive_send t o (.text (t.session.fill text))
      split <;> rename_i heq <;> rw [heq] at hs
      · rw [ih]; exact hs
      · exact hs

theorem isLive_perform (t : Turn κ) (o : Outside κ) (a : Step.Action) :
    (t.perform o a).2.isLive = t.isLive := by
  unfold perform
  split
  · exact isLive_sendItems ..
  · rfl
  · rfl

theorem act_live_cases (t : Turn κ) (o : Outside κ) (n : Node) :
    (t.act o n).2.isLive = t.isLive ∨
      n.firstChild? = none ∧ (t.act o n).1 = .ok none ∧ (t.act o n).2.isLive = false := by
  unfold act
  split
  · exact Or.inl rfl
  · rename_i a _
    have hp := isLive_perform t o a
    split <;> rename_i heq <;> rw [heq] at hp
    · exact Or.inl hp
    · split
      · exact Or.inl hp
      · rename_i hc
        exact Or.inr ⟨hc, rfl, isLive_finish _⟩

theorem isLive_request (t : Turn κ) (o : Outside κ) (n : Node) :
    (t.request o n).2.isLive = t.isLive := by
  simp only [request]
  split
  · rfl
  · rename_i r _
    have hc := isLive_call t o r
    split <;> rename_i heq <;> rw [heq] at hc <;> exact hc

theorem isLive_jump (t : Turn κ) (w : Workflow) (r : Rules) (n : Node) :
    (t.jump w r n).2.isLive = t.isLive := by
  simp only [jump]
  split
  · rfl
  · split
    · rfl
    · split <;> rfl

theorem isLive_ask (t : Turn κ) (o : Outside κ) (r : Rules) (n : Node) :
    (t.ask o r n).2.isLive = t.isLive := by
  unfold ask
  split
  · rfl
  · rename_i d _
    have hs := isLive_send t o (r.prompt d.question (t.session.fill d.question.text))
    split <;> rename_i heq <;> rw [heq] at hs <;> exact hs

theorem execute_live_cases (t : Turn κ) (n : Node) :
    (t.execute o w r n).2.isLive = t.isLive ∨
      n.kind = .action ∧ n.firstChild? = none ∧ (t.execute o w r n).1 = .ok none ∧
        (t.execute o w r n).2.isLive = false := by
  unfold execute
  split
  · exact Or.inl (isLive_ask ..)
  · exact Or.inl (isLive_noteAll ..)
  · rename_i hk
    exact (act_live_cases t o n).imp_right fun h => ⟨hk, h⟩
  · exact Or.inl (isLive_request ..)
  · exact Or.inl rfl
  · exact Or.inl rfl
  · exact Or.inl (isLive_jump ..)
  · exact Or.inl rfl

/-! ### Runs -/

/-- Nothing has been asked in a turn, no question waits, and the conversation goes on. -/
structure Tidy (t : Turn κ) : Prop where
  isLive : t.isLive = true
  waiting : t.session.waiting = none
  prompts : t.prompts = []

/-- The last step of a turn has asked: its prompt is the only one and the last message, and it waits
for the answer. -/
structure HasAsked (w : Workflow) (r : Rules) (t : Turn κ) (q : Node) (m : Outbound) : Prop where
  mem : q ∈ w.root.preorder
  kind : q.kind = .question
  prompts : t.prompts = [(q, m)]
  lastMessage : t.messages.getLast? = some m
  lastStep : t.steps.getLast? = some q
  prompt : q.prompt? r t.session = some m
  waiting : t.session.waiting = q.id
  isLive : t.isLive = true

/-- The last step of a turn was a final action, which has ended the conversation. -/
structure HasEnded (t : Turn κ) (n : Node) : Prop where
  kind : n.kind = .action
  isFinal : n.firstChild? = none
  lastStep : t.steps.getLast? = some n
  prompts : t.prompts = []
  isLive : t.isLive = false

/-- What the steps of a turn come to: a question was asked, the conversation was ended, or there was
just no step any more. -/
def Closed (w : Workflow) (r : Rules) (t : Turn κ) : Prop :=
  (∃ q m, HasAsked w r t q m) ∨ (∃ n, HasEnded t n) ∨ t.Tidy

theorem Tidy.note (h : t.Tidy) (e : Log.Entry) : (t.note e).Tidy :=
  ⟨h.isLive, h.waiting, (prompts_note t e).trans h.prompts⟩

theorem Tidy.begin (h : t.Tidy) (n : Node) : (t.begin n).Tidy :=
  ⟨h.isLive, h.waiting, (prompts_begin t n).trans h.prompts⟩

/-- After a step all is as before, or it was the last one and has asked or ended the conversation. -/
theorem execute_cases (h : t.Tidy) {n : Node} (hn : n ∈ w.root.preorder) :
    ((t.begin n).execute o w r n).2.Tidy ∨
      ((t.begin n).execute o w r n).1 = .ok none ∧
        ((∃ m, HasAsked w r ((t.begin n).execute o w r n).2 n m) ∨
          HasEnded ((t.begin n).execute o w r n).2 n) := by
  have hb := h.begin n
  have hsteps := steps_execute_begin t o w r n
  have hlast : ((t.begin n).execute o w r n).2.steps.getLast? = some n := by
    rw [hsteps, List.getLast?_concat]
  have hprompts := prompts_of_work (work_execute (t.begin n) o w r n)
  rw [h.prompts, List.nil_append] at hprompts
  by_cases hk : n.kind = .question
  · have hlive : ((t.begin n).execute o w r n).2.isLive = true := by
      rw [execute, hk]; exact (isLive_ask ..).trans hb.isLive
    rw [if_pos hk] at hprompts
    have hx : (t.begin n).execute o w r n = (t.begin n).ask o r n := by rw [execute, hk]
    rw [hx] at hprompts hlast hlive ⊢
    rcases (t.begin n).ask_cases o r n with ⟨f, t', ha, hs⟩ | ⟨t', m, ha, hs, hm, hsent⟩
    · refine Or.inl ⟨hlive, ?_, ?_⟩
      · rw [ha, hs]; exact hb.waiting
      · rw [hprompts, ha, messages_of_ask_error ha, messages_begin, List.drop_length]; rfl
    · rw [ha] at hprompts hlast hlive ⊢
      refine Or.inr ⟨rfl, Or.inl ⟨m, hn, hk, ?_, ?_, hlast, ?_, ?_, hlive⟩⟩
      · rw [hprompts, hsent, messages_begin, List.drop_left]; rfl
      · rw [hsent, List.getLast?_concat]
      · rw [hs]; exact hm
      · rw [hs]
  · rw [if_neg hk] at hprompts
    have hwait := (waiting_execute_of_ne hk (t.begin n) o w r).trans hb.waiting
    rcases execute_live_cases (o := o) (w := w) (r := r) (t.begin n) n with hl | ⟨ha, hc, hx, hl⟩
    · exact Or.inl ⟨hl.trans hb.isLive, hwait, hprompts⟩
    · exact Or.inr ⟨hx, Or.inr ⟨ha, hc, hlast, hprompts, hl⟩⟩

/-- A step that another one follows has asked nothing and ended nothing. -/
theorem tidy_of_pass (h : t.Tidy) {n m : Node} (hn : n ∈ w.root.preorder)
    (hp : pass o w r (some n, t) = (some m, t')) : t'.Tidy ∧ m ∈ w.root.preorder := by
  have hc := execute_cases (o := o) (r := r) h hn
  rw [pass] at hp
  split at hp
  · cases hp
  · rename_i next u hx
    cases hp
    rw [hx] at hc
    rcases hc with hc | ⟨hno, -⟩
    · exact ⟨hc, (execute_next hn hx).1⟩
    · cases hno

theorem tidy_of_iterate (h : t.Tidy) {first : Option Node}
    (hfirst : ∀ n, first = some n → n ∈ w.root.preorder) (k : Nat) {n : Node}
    (hk : (pass o w r)^[k] (first, t) = (some n, t')) : t'.Tidy ∧ n ∈ w.root.preorder := by
  induction k generalizing first t with
  | zero => cases hk; exact ⟨h, hfirst n rfl⟩
  | succ k ih =>
    rw [Function.iterate_succ_apply] at hk
    cases first with
    | none =>
      have hstay (t : Turn κ) : (pass o w r)^[k] (none, t) = (none, t) :=
        Function.iterate_fixed rfl k
      rw [pass, hstay] at hk
      cases hk
    | some m =>
      obtain ⟨⟨next, u⟩, hp⟩ : ∃ q, pass o w r (some m, t) = q := ⟨_, rfl⟩
      rw [hp] at hk
      cases next with
      | none =>
        rw [show (pass o w r)^[k] (none, u) = (none, u) from Function.iterate_fixed rfl k] at hk
        cases hk
      | some m' =>
        obtain ⟨hu, hm'⟩ := tidy_of_pass h (hfirst m rfl) hp
        exact ih hu (fun n hn => by cases hn; exact hm') hk

theorem closed_run (t : Turn κ) (n : Node) (hn : n ∈ w.root.preorder) (h : t.Tidy) :
    Closed w r (t.run o w r n hn) := by
  fun_induction Turn.run t o w r n hn with
  | case1 t n hn f t' hx =>
    have hc := execute_cases (o := o) (r := r) h hn
    rw [hx] at hc
    rcases hc with hc | ⟨hno, -⟩
    · exact Or.inr (Or.inr (hc.note _))
    · cases hno
  | case2 t n hn t' hx =>
    have hc := execute_cases (o := o) (r := r) h hn
    rw [hx] at hc
    rcases hc with hc | ⟨-, ⟨m, hc⟩ | hc⟩
    · exact Or.inr (Or.inr hc)
    · exact Or.inl ⟨n, m, hc⟩
    · exact Or.inr (Or.inl ⟨n, hc⟩)
  | case3 t n hn t' m hx ih =>
    refine ih ?_
    have hc := execute_cases (o := o) (r := r) h hn
    rw [hx] at hc
    rcases hc with hc | ⟨hno, -⟩
    · exact hc
    · cases hno

end Turn

end ChatFlow
