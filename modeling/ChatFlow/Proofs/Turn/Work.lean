import ChatFlow.Bot

/-!
# What a step does to a turn

`Turn.Work o t t'`: from `t` the work of one step leads to `t'`. Entries are noted, messages sent and
endpoints called, the session is changed but for its id, the conversation is ended; no other step
begins. Every kind of step is such work (`work_execute`), and so is judging an answer
(`work_answer`); what all of them keep is proved on `Work` once.
-/

namespace ChatFlow

namespace Turn

variable {κ : Type}

/-- The work of a step, piece by piece. -/
inductive Work (o : Outside κ) (t : Turn κ) : Turn κ → Prop
  | rest : Work o t t
  | note {u : Turn κ} (e : Log.Entry) (h : Work o t u) : Work o t (u.note e)
  | send {u : Turn κ} (c : Content) (h : Work o t u) : Work o t (u.send o c).2
  | call {u : Turn κ} (r : Step.Request) (h : Work o t u) : Work o t (u.call o r).2
  | modify {u : Turn κ} (f : Session → Session) (hf : ∀ s, (f s).id = s.id) (h : Work o t u) :
      Work o t (u.modify f)
  | finish {u : Turn κ} (h : Work o t u) : Work o t u.finish

variable {o : Outside κ} {t t' t'' : Turn κ}

/-- The steps that have begun in a turn. -/
def steps (t : Turn κ) : List Node := Event.steps t.events

/-- The messages that were sent in a turn. -/
def messages (t : Turn κ) : List Outbound := Event.messages t.events

/-- `t` is an earlier state of the turn that has come to `t'`: it is in the same conversation, and
every message since then went there. -/
structure Precedes (t t' : Turn κ) : Prop where
  id : t'.session.id = t.session.id
  events : ∃ es, t'.events = t.events ++ es ∧ ∀ m, Event.sent m ∈ es → m.recipient = t.session.id

namespace Precedes

theorem of_eq (hs : t'.session.id = t.session.id) (he : t'.events = t.events) : t.Precedes t' :=
  ⟨hs, [], by simp [he], by simp⟩

theorem refl (t : Turn κ) : t.Precedes t := of_eq rfl rfl

theorem trans (h : t.Precedes t') (h' : t'.Precedes t'') : t.Precedes t'' := by
  obtain ⟨es, he, hs⟩ := h.events
  obtain ⟨es', he', hs'⟩ := h'.events
  refine ⟨h'.id.trans h.id, es ++ es', by rw [he', he, List.append_assoc], fun m hm => ?_⟩
  rcases List.mem_append.1 hm with hm | hm
  · exact hs m hm
  · rw [hs' m hm, h.id]

theorem record {e : Event} (he : ∀ m, e = .sent m → m.recipient = t.session.id) :
    t.Precedes (t.record e) :=
  ⟨rfl, [e], rfl, fun m hm => he m (List.mem_singleton.1 hm).symm⟩

theorem note (e : Log.Entry) : t.Precedes (t.note e) := record nofun

theorem noteAll (es : List Log.Entry) : t.Precedes (t.noteAll es) := by
  induction es generalizing t with
  | nil => exact refl t
  | cons e es ih => exact (note e).trans ih

/-- A change outside the session and the events counts for nothing. -/
theorem ofUnder {isLive : Bool} {world : κ}
    (h : Precedes { t with isLive, world } t') : t.Precedes t' :=
  ⟨h.id, h.events⟩

theorem send (o : Outside κ) (c : Content) : t.Precedes (t.send o c).2 := by
  simp only [Turn.send]
  split
  · refine ofUnder ((noteAll _).trans (record fun m hm => ?_))
    cases hm; simp
  · exact ofUnder (noteAll _)

theorem call (o : Outside κ) (r : Step.Request) : t.Precedes (t.call o r).2 := by
  simp only [Turn.call]
  split
  · exact refl t
  · split <;> exact ofUnder (record fun _ h => by cases h)

theorem finish : t.Precedes t.finish := by
  unfold Turn.finish
  split
  · exact ofUnder (note _)
  · exact refl t

end Precedes

/-! ### What is kept -/

namespace Work

theorem trans (h : Work o t t') (h' : Work o t' t'') : Work o t t'' := by
  induction h' with
  | rest => exact h
  | note e _ ih => exact ih.note e
  | send c _ ih => exact ih.send c
  | call r _ ih => exact ih.call r
  | modify f hf _ ih => exact ih.modify f hf
  | finish _ ih => exact ih.finish

theorem noteAll (h : Work o t t') (es : List Log.Entry) : Work o t (t'.noteAll es) := by
  induction es generalizing t' with
  | nil => exact h
  | cons e es ih => exact ih (h.note e)

theorem precedes (h : Work o t t') : t.Precedes t' := by
  induction h with
  | rest => exact .refl t
  | note e _ ih => exact ih.trans (.note e)
  | send c _ ih => exact ih.trans (.send o c)
  | call r _ ih => exact ih.trans (.call o r)
  | modify f hf _ ih => exact ih.trans (.of_eq (hf _) rfl)
  | finish _ ih => exact ih.trans .finish

end Work

theorem filterMap_note {α : Type} {f : Event → Option α} (hf : ∀ e, f (.noted e) = none)
    (t : Turn κ) (e : Log.Entry) : (t.note e).events.filterMap f = t.events.filterMap f := by
  simp [Turn.note, Turn.record, hf]

@[simp] theorem steps_note (t : Turn κ) (e : Log.Entry) : (t.note e).steps = t.steps :=
  filterMap_note (fun _ => rfl) t e

@[simp] theorem messages_note (t : Turn κ) (e : Log.Entry) : (t.note e).messages = t.messages :=
  filterMap_note (fun _ => rfl) t e

@[simp] theorem steps_say (t : Turn κ) (l : Log.Level) (m : String) : (t.say l m).steps = t.steps :=
  steps_note ..

@[simp] theorem steps_fail (t : Turn κ) (m : String) (f : Fault) : (t.fail m f).steps = t.steps :=
  steps_note ..

@[simp] theorem steps_noteAll (t : Turn κ) (es : List Log.Entry) :
    (t.noteAll es).steps = t.steps := by
  induction es generalizing t with
  | nil => rfl
  | cons e es ih => exact (ih (t.note e)).trans (steps_note t e)

@[simp] theorem messages_noteAll (t : Turn κ) (es : List Log.Entry) :
    (t.noteAll es).messages = t.messages := by
  induction es generalizing t with
  | nil => rfl
  | cons e es ih => exact (ih (t.note e)).trans (messages_note t e)

@[simp] theorem steps_modify (t : Turn κ) (f : Session → Session) : (t.modify f).steps = t.steps :=
  rfl

theorem steps_record_of_begun? {e : Event} (h : e.begun? = none) (t : Turn κ) :
    (t.record e).steps = t.steps := by
  simp [steps, Event.steps, Turn.record, h]

@[simp] theorem steps_send (t : Turn κ) (o : Outside κ) (c : Content) :
    (t.send o c).2.steps = t.steps := by
  simp only [Turn.send]
  split
  · rw [steps_record_of_begun? rfl, steps_noteAll]; rfl
  · rw [steps_noteAll]; rfl

@[simp] theorem steps_call (t : Turn κ) (o : Outside κ) (r : Step.Request) :
    (t.call o r).2.steps = t.steps := by
  simp only [Turn.call]
  split
  · rfl
  · split <;> exact steps_record_of_begun? rfl _

@[simp] theorem steps_finish (t : Turn κ) : t.finish.steps = t.steps := by
  unfold Turn.finish; split
  · exact steps_note _ _
  · rfl

@[simp] theorem messages_finish (t : Turn κ) : t.finish.messages = t.messages := by
  unfold Turn.finish; split
  · exact messages_note _ _
  · rfl

theorem messages_of_send {c : Content} (h : t.send o c = (.ok (), t')) :
    t'.messages = t.messages ++ [⟨t.session.id, c⟩] := by
  simp only [Turn.send] at h
  split at h
  · rename_i log world _
    cases h
    rw [messages, Event.messages, record, List.filterMap_append]
    exact congrArg (· ++ _) (messages_noteAll { t with world } log)
  · cases h

/-- No step begins within another one. -/
theorem Work.steps_eq (h : Work o t t') : t'.steps = t.steps := by
  induction h with
  | rest => rfl
  | note e _ ih => rw [steps_note, ih]
  | send c _ ih => rw [steps_send, ih]
  | call r _ ih => rw [steps_call, ih]
  | modify f _ _ ih => rw [steps_modify, ih]
  | finish _ ih => rw [steps_finish, ih]

/-! ### Every step is such work -/

theorem work_ask (t : Turn κ) (o : Outside κ) (r : Rules) (n : Node) : Work o t (t.ask o r n).2 := by
  unfold ask
  split
  · exact .rest
  · rename_i d _
    have hw : Work o t _ := .send (r.prompt d.question (t.session.fill d.question.text)) .rest
    split <;> rename_i heq <;> rw [heq] at hw
    · exact hw
    · exact .modify (fun s => { s with waiting := n.id }) (fun _ => rfl) hw

theorem work_sendItems (t : Turn κ) (o : Outside κ) (is : List Step.ActionItem) :
    Work o t (sendItems o t is).2 := by
  induction is generalizing t with
  | nil => exact .rest
  | cons i is ih =>
    simp only [sendItems]
    split
    · exact ih t
    · rename_i text _
      have hw : Work o t _ := .send (.text (t.session.fill text)) .rest
      split <;> rename_i heq <;> rw [heq] at hw
      · exact hw.trans (ih _)
      · exact hw

theorem work_perform (t : Turn κ) (o : Outside κ) (a : Step.Action) : Work o t (t.perform o a).2 := by
  unfold perform
  split
  · exact work_sendItems ..
  · exact .note _ .rest
  · exact .rest

theorem work_act (t : Turn κ) (o : Outside κ) (n : Node) : Work o t (t.act o n).2 := by
  unfold act
  split
  · exact .rest
  · rename_i a _
    have hw := work_perform t o a
    split <;> rename_i heq <;> rw [heq] at hw
    · exact hw
    · split
      · exact hw
      · exact hw.finish

theorem work_request (t : Turn κ) (o : Outside κ) (n : Node) : Work o t (t.request o n).2 := by
  simp only [request]
  split
  · exact .note _ .rest
  · rename_i r _
    have hw : Work o t _ := .call r .rest
    split <;> rename_i heq <;> rw [heq] at hw
    · exact hw.note _
    · exact .modify _ (fun s => s.id_keepReply r _) hw

theorem work_jump (t : Turn κ) (o : Outside κ) (w : Workflow) (r : Rules) (n : Node) :
    Work o t (t.jump w r n).2 := by
  simp only [jump]
  split
  · exact .rest
  · have counted (k : Assoc Int) : Work o t (t.modify fun s => { s with jumpCounts := k }) :=
      .modify _ (fun _ => rfl) .rest
    split
    · exact (counted _).note _
    · split
      · exact counted _
      · exact (counted _).note _

theorem work_execute (t : Turn κ) (o : Outside κ) (w : Workflow) (r : Rules) (n : Node) :
    Work o t (t.execute o w r n).2 := by
  unfold execute
  split
  · exact work_ask ..
  · exact .noteAll .rest _
  · exact work_act ..
  · exact work_request ..
  · exact .rest
  · exact .note _ .rest
  · exact work_jump ..
  · exact .rest

theorem work_take (t : Turn κ) (o : Outside κ) (n : Node) (d : Step.QuestionData) (reply : String) :
    Work o t (t.take n d reply).2 := by
  simp only [take]
  refine .modify _ (fun s => ?_) .rest
  split <;> simp

theorem work_refuse (t : Turn κ) (o : Outside κ) (r : Rules) (n : Node) (reply : String) :
    Work o t (t.refuse r n reply).2 := by
  have counted (t : Turn κ) (k : Assoc Int) :
      Work o t (t.modify fun s => { s with invalidAttempts := k }) := .modify _ (fun _ => rfl) .rest
  simp only [refuse]
  split
  · exact .note _ .rest
  · split
    · exact (((Work.note _ .rest).trans (counted _ _)).note _).finish
    · exact (Work.note _ .rest).trans (counted _ _)

theorem work_answer (t : Turn κ) (o : Outside κ) (r : Rules) (n : Node) (reply : String) :
    Work o t (t.answer r n reply).2 := by
  have cleared : Work o t (t.modify fun s => { s with waiting := none }) :=
    .modify _ (fun _ => rfl) .rest
  simp only [answer]
  split
  · exact .rest
  · split
    · exact cleared
    · exact cleared.trans (work_take ..)
    · exact cleared.trans (work_refuse ..)

/-! ### Runs -/

theorem steps_begin (t : Turn κ) (n : Node) : (t.begin n).steps = t.steps ++ [n] := by
  rw [begin, steps_say, steps, record, Event.steps, List.filterMap_append]; rfl

theorem steps_execute_begin (t : Turn κ) (o : Outside κ) (w : Workflow) (r : Rules) (n : Node) :
    ((t.begin n).execute o w r n).2.steps = t.steps ++ [n] := by
  rw [(work_execute (t.begin n) o w r n).steps_eq, steps_begin]

theorem precedes_begin (t : Turn κ) (n : Node) : t.Precedes (t.begin n) :=
  (Precedes.record (e := .begun n) nofun).trans (.note _)

theorem precedes_run (t : Turn κ) (o : Outside κ) (w : Workflow) (r : Rules) (n : Node)
    (hn : n ∈ w.root.preorder) : t.Precedes (t.run o w r n hn) := by
  fun_induction Turn.run t o w r n hn with
  | case1 t n hn f t' h =>
    have hw := (work_execute (t.begin n) o w r n).precedes
    rw [h] at hw
    exact ((precedes_begin t n).trans hw).trans (.note _)
  | case2 t n hn t' h =>
    have hw := (work_execute (t.begin n) o w r n).precedes
    rw [h] at hw
    exact (precedes_begin t n).trans hw
  | case3 t n hn t' m h ih =>
    have hw := (work_execute (t.begin n) o w r n).precedes
    rw [h] at hw
    exact ((precedes_begin t n).trans hw).trans ih

end Turn

end ChatFlow
