import ChatFlow.Bot

/-!
# Turns that go alike

Two turns with one session, in worlds outside that answer alike, go the same way: they execute the
same steps, send the same messages, call the same endpoints and leave the same session. Only the log
may differ, for what a channel notes is its own affair. `Turn.Alike` says so of two turns, `Agree` of
two outcomes; each kind of step keeps it, and with them a whole turn (`Alike.run`, `Alike.resume`).
-/

namespace ChatFlow

variable {κ₁ κ₂ : Type}

/-- Two worlds outside answer alike as long as their states are related. -/
structure Outside.Alike (o₁ : Outside κ₁) (o₂ : Outside κ₂) (R : κ₁ → κ₂ → Prop) : Prop where
  send : ∀ {w₁ w₂}, R w₁ w₂ → ∀ m,
    (o₁.send w₁ m).1 = (o₂.send w₂ m).1 ∧ R (o₁.send w₁ m).2.2 (o₂.send w₂ m).2.2
  fetch : ∀ {w₁ w₂}, R w₁ w₂ → ∀ c,
    (o₁.fetch w₁ c).1 = (o₂.fetch w₂ c).1 ∧ R (o₁.fetch w₁ c).2 (o₂.fetch w₂ c).2
  codecs : o₁.codecs = o₂.codecs

theorem Outside.Alike.refl (o : Outside κ₁) : o.Alike o Eq where
  send := by rintro w _ rfl m; exact ⟨rfl, rfl⟩
  fetch := by rintro w _ rfl c; exact ⟨rfl, rfl⟩
  codecs := rfl

/-- What happened, without the log. -/
def Event.deeds (es : List Event) : List Event := es.filter (·.log?.isNone)

@[simp] theorem Event.deeds_append (es es' : List Event) :
    deeds (es ++ es') = deeds es ++ deeds es' :=
  List.filter_append ..

@[simp] theorem Event.deeds_singleton_noted (e : Log.Entry) : deeds [.noted e] = [] := rfl

@[simp] theorem Event.deeds_noted (log : List Log.Entry) : deeds (Bot.noted log) = [] := by
  induction log with
  | nil => rfl
  | cons e log ih => exact ih

/-- Whatever the log does not hold can be read off the deeds. -/
theorem Event.filterMap_deeds {α : Type} {f : Event → Option α} (hf : ∀ e, f (.noted e) = none)
    (es : List Event) : (deeds es).filterMap f = es.filterMap f := by
  induction es with
  | nil => rfl
  | cons e es ih =>
    cases e with
    | noted e => simpa [deeds, Event.log?, hf] using ih
    | begun n => simpa [deeds, Event.log?, List.filterMap_cons] using by rw [← ih]; rfl
    | sent m => simpa [deeds, Event.log?, List.filterMap_cons] using by rw [← ih]; rfl
    | called c => simpa [deeds, Event.log?, List.filterMap_cons] using by rw [← ih]; rfl

namespace Turn

/-- Two turns that have come to the same. -/
structure Alike (R : κ₁ → κ₂ → Prop) (t₁ : Turn κ₁) (t₂ : Turn κ₂) : Prop where
  session : t₁.session = t₂.session
  isLive : t₁.isLive = t₂.isLive
  world : R t₁.world t₂.world
  deeds : Event.deeds t₁.events = Event.deeds t₂.events

/-- The same result of two turns that have come to the same. -/
def Agree {α : Type} (R : κ₁ → κ₂ → Prop) (p₁ : α × Turn κ₁) (p₂ : α × Turn κ₂) : Prop :=
  p₁.1 = p₂.1 ∧ Alike R p₁.2 p₂.2

variable {R : κ₁ → κ₂ → Prop} {t₁ : Turn κ₁} {t₂ : Turn κ₂} {o₁ : Outside κ₁} {o₂ : Outside κ₂}

theorem Agree.of_alike {α : Type} {a : α} (h : Alike R t₁ t₂) : Agree R (a, t₁) (a, t₂) := ⟨rfl, h⟩

theorem Agree.split {α : Type} {p₁ : α × Turn κ₁} {p₂ : α × Turn κ₂} (h : Agree R p₁ p₂) :
    ∃ a u₁ u₂, p₁ = (a, u₁) ∧ p₂ = (a, u₂) ∧ Alike R u₁ u₂ :=
  ⟨p₁.1, p₁.2, p₂.2, rfl, by rw [h.1], h.2⟩

namespace Alike

theorem record (h : Alike R t₁ t₂) (e : Event) : Alike R (t₁.record e) (t₂.record e) :=
  ⟨h.session, h.isLive, h.world, by simp [Turn.record, h.deeds]⟩

theorem note (h : Alike R t₁ t₂) (e₁ e₂ : Log.Entry) : Alike R (t₁.note e₁) (t₂.note e₂) :=
  ⟨h.session, h.isLive, h.world, by simp [Turn.note, Turn.record, h.deeds]⟩

theorem noteAll_left (h : Alike R t₁ t₂) (es : List Log.Entry) : Alike R (t₁.noteAll es) t₂ := by
  induction es generalizing t₁ with
  | nil => exact h
  | cons e es ih =>
    refine ih ⟨h.session, h.isLive, h.world, ?_⟩
    simp [Turn.note, Turn.record, h.deeds]

theorem noteAll_right (h : Alike R t₁ t₂) (es : List Log.Entry) : Alike R t₁ (t₂.noteAll es) := by
  induction es generalizing t₂ with
  | nil => exact h
  | cons e es ih =>
    refine ih ⟨h.session, h.isLive, h.world, ?_⟩
    simp [Turn.note, Turn.record, h.deeds]

theorem modify (h : Alike R t₁ t₂) (f : Session → Session) :
    Alike R (t₁.modify f) (t₂.modify f) :=
  ⟨congrArg f h.session, h.isLive, h.world, h.deeds⟩

theorem move (h : Alike R t₁ t₂) {w₁ : κ₁} {w₂ : κ₂} (hw : R w₁ w₂) :
    Alike R { t₁ with world := w₁ } { t₂ with world := w₂ } :=
  ⟨h.session, h.isLive, hw, h.deeds⟩

theorem finish (h : Alike R t₁ t₂) : Alike R t₁.finish t₂.finish := by
  have ended : Alike R { t₁ with isLive := false } { t₂ with isLive := false } :=
    ⟨h.session, rfl, h.world, h.deeds⟩
  unfold Turn.finish
  rw [h.isLive]
  split
  · exact ended.note _ _
  · exact h

theorem send (ho : o₁.Alike o₂ R) (h : Alike R t₁ t₂) (c : Content) :
    Agree R (t₁.send o₁ c) (t₂.send o₂ c) := by
  have hm : (⟨t₁.session.id, c⟩ : Outbound) = ⟨t₂.session.id, c⟩ := by rw [h.session]
  obtain ⟨hr, hw⟩ := ho.send h.world ⟨t₂.session.id, c⟩
  simp only [Turn.send, hm]
  generalize o₁.send t₁.world _ = x₁ at hr hw
  generalize o₂.send t₂.world _ = x₂ at hr hw
  obtain ⟨a, l₁, w₁⟩ := x₁
  obtain ⟨_, l₂, w₂⟩ := x₂
  obtain rfl : a = _ := hr
  have moved := noteAll_left (noteAll_right (h.move hw) l₂) l₁
  cases a with
  | error f => exact ⟨rfl, moved⟩
  | ok => exact ⟨rfl, moved.record _⟩

theorem call (ho : o₁.Alike o₂ R) (h : Alike R t₁ t₂) (r : Step.Request) :
    Agree R (t₁.call o₁ r) (t₂.call o₂ r) := by
  have hc : Endpoint.Call.ofStep? r t₁.session = Endpoint.Call.ofStep? r t₂.session := by
    rw [h.session]
  unfold Turn.call
  rw [hc]
  cases Endpoint.Call.ofStep? r t₂.session with
  | none => exact ⟨rfl, h⟩
  | some c =>
    obtain ⟨hr, hw⟩ := ho.fetch h.world c
    have moved := (h.move hw).record (.called c)
    dsimp only
    split
    · exact ⟨by rw [hr, ho.codecs], moved⟩
    · exact ⟨rfl, moved⟩

/-! ### Each kind of step -/

theorem ask (ho : o₁.Alike o₂ R) (h : Alike R t₁ t₂) (r : Rules) (n : Node) :
    Agree R (t₁.ask o₁ r n) (t₂.ask o₂ r n) := by
  unfold Turn.ask
  cases n.read Step.QuestionData.decode with
  | error f => exact ⟨rfl, h⟩
  | ok d =>
    obtain ⟨a, u₁, u₂, h₁, h₂, hu⟩ :=
      (h.send ho (r.prompt d.question (t₂.session.fill d.question.text))).split
    simp only [h.session, h₁, h₂]
    cases a with
    | error f => exact ⟨rfl, hu⟩
    | ok => exact .of_alike (hu.modify _)

theorem sendItems (ho : o₁.Alike o₂ R) (h : Alike R t₁ t₂) (is : List Step.ActionItem) :
    Agree R (Turn.sendItems o₁ t₁ is) (Turn.sendItems o₂ t₂ is) := by
  induction is generalizing t₁ t₂ with
  | nil => exact ⟨rfl, h⟩
  | cons i is ih =>
    simp only [Turn.sendItems]
    cases i.text? with
    | none => exact ih h
    | some text =>
      obtain ⟨a, u₁, u₂, h₁, h₂, hu⟩ := (h.send ho (.text (t₂.session.fill text))).split
      simp only [h.session, h₁, h₂]
      cases a with
      | error f => exact ⟨rfl, hu⟩
      | ok => exact ih hu

theorem perform (ho : o₁.Alike o₂ R) (h : Alike R t₁ t₂) (a : Step.Action) :
    Agree R (t₁.perform o₁ a) (t₂.perform o₂ a) := by
  unfold Turn.perform
  split
  · exact h.sendItems ho a.items
  · exact ⟨rfl, h.note _ _⟩
  · exact ⟨rfl, h⟩

theorem act (ho : o₁.Alike o₂ R) (h : Alike R t₁ t₂) (n : Node) :
    Agree R (t₁.act o₁ n) (t₂.act o₂ n) := by
  unfold Turn.act
  cases n.read Step.Action.decode with
  | error f => exact ⟨rfl, h⟩
  | ok a =>
    obtain ⟨a, u₁, u₂, h₁, h₂, hu⟩ := (h.perform ho a).split
    simp only [h₁, h₂]
    cases a with
    | error f => exact ⟨rfl, hu⟩
    | ok =>
      cases n.firstChild? with
      | some m => exact ⟨rfl, hu⟩
      | none => exact ⟨rfl, hu.finish⟩

theorem request (ho : o₁.Alike o₂ R) (h : Alike R t₁ t₂) (n : Node) :
    Agree R (t₁.request o₁ n) (t₂.request o₂ n) := by
  unfold Turn.request
  cases n.read Step.Request.decode with
  | error f => exact ⟨rfl, h.note _ _⟩
  | ok r =>
    obtain ⟨a, u₁, u₂, h₁, h₂, hu⟩ := (h.call ho r).split
    simp only [h₁, h₂]
    cases a with
    | none => exact ⟨rfl, hu.note _ _⟩
    | some content => exact .of_alike (hu.modify _)

theorem branch (h : Alike R t₁ t₂) (n : Node) : Agree R (t₁.branch n) (t₂.branch n) := by
  unfold Turn.branch
  rw [h.session]
  exact ⟨rfl, noteAll_left (noteAll_right h _) _⟩

theorem jump (h : Alike R t₁ t₂) (w : Workflow) (r : Rules) (n : Node) :
    Agree R (t₁.jump w r n) (t₂.jump w r n) := by
  unfold Turn.jump
  cases n.read Step.Jump.decode with
  | error f => exact ⟨rfl, h⟩
  | ok j =>
    have hc : t₁.session.jumps n.label = t₂.session.jumps n.label := by rw [h.session]
    have counted := h.modify fun s =>
      { s with jumpCounts := s.jumpCounts.put n.label (t₂.session.jumps n.label + 1) }
    simp only [hc]
    split
    · exact ⟨rfl, counted.note _ _⟩
    · split
      · exact ⟨rfl, counted⟩
      · exact ⟨rfl, counted.note _ _⟩

theorem execute (ho : o₁.Alike o₂ R) (h : Alike R t₁ t₂) (w : Workflow) (r : Rules) (n : Node) :
    Agree R (t₁.execute o₁ w r n) (t₂.execute o₂ w r n) := by
  unfold Turn.execute
  split
  · exact h.ask ho r n
  · exact h.branch n
  · exact h.act ho n
  · exact h.request ho n
  · exact ⟨rfl, h⟩
  · exact ⟨rfl, h.note _ _⟩
  · exact h.jump w r n
  · exact ⟨rfl, h⟩

/-! ### Runs and answers -/

theorem begin (h : Alike R t₁ t₂) (n : Node) : Alike R (t₁.begin n) (t₂.begin n) :=
  (h.record _).note _ _

theorem run (ho : o₁.Alike o₂ R) (w : Workflow) (r : Rules) (n : Node)
    (hn : n ∈ w.root.preorder) (h : Alike R t₁ t₂) :
    Alike R (t₁.run o₁ w r n hn) (t₂.run o₂ w r n hn) := by
  fun_induction Turn.run t₁ o₁ w r n hn generalizing t₂ with
  | case1 t₁ n hn f u₁ h₁ =>
    obtain ⟨a, v₁, u₂, h₁', h₂, hu⟩ := ((h.begin n).execute ho w r n).split
    obtain ⟨rfl, rfl⟩ := Prod.mk.inj (h₁'.symm.trans h₁)
    rw [run_of_error hn h₂]
    exact hu.note _ _
  | case2 t₁ n hn u₁ h₁ =>
    obtain ⟨a, v₁, u₂, h₁', h₂, hu⟩ := ((h.begin n).execute ho w r n).split
    obtain ⟨rfl, rfl⟩ := Prod.mk.inj (h₁'.symm.trans h₁)
    rw [run_of_none hn h₂]
    exact hu
  | case3 t₁ n hn u₁ m h₁ ih =>
    obtain ⟨a, v₁, u₂, h₁', h₂, hu⟩ := ((h.begin n).execute ho w r n).split
    obtain ⟨rfl, rfl⟩ := Prod.mk.inj (h₁'.symm.trans h₁)
    rw [run_of_some hn h₂]
    exact ih hu

theorem runFrom (ho : o₁.Alike o₂ R) (w : Workflow) (r : Rules) (next : Option Node)
    (hn : ∀ n, next = some n → n ∈ w.root.preorder) (h : Alike R t₁ t₂) :
    Alike R (t₁.runFrom o₁ w r next hn) (t₂.runFrom o₂ w r next hn) := by
  cases next with
  | none => exact h
  | some n => exact h.run ho w r n (hn n rfl)

theorem take (h : Alike R t₁ t₂) (n : Node) (d : Step.QuestionData) (reply : String) :
    Agree R (t₁.take n d reply) (t₂.take n d reply) := by
  unfold Turn.take
  exact .of_alike (h.modify _)

theorem refuse (h : Alike R t₁ t₂) (r : Rules) (n : Node) (reply : String) :
    Agree R (t₁.refuse r n reply) (t₂.refuse r n reply) := by
  have hc : t₁.session.attempts n.label = t₂.session.attempts n.label := by rw [h.session]
  have noted := h.note (.within .interpreter .info t₁.session.id
      ("Invalid answer to " ++ n.label ++ ": " ++ Text.quoted (Text.clip 50 reply)))
    (.within .interpreter .info t₂.session.id
      ("Invalid answer to " ++ n.label ++ ": " ++ Text.quoted (Text.clip 50 reply)))
  have counted := noted.modify fun s =>
    { s with invalidAttempts := s.invalidAttempts.put n.label (t₂.session.attempts n.label + 1) }
  simp only [Turn.refuse, session_say, hc]
  cases n.after? .invalidAnswer with
  | some m => exact ⟨rfl, noted⟩
  | none =>
    dsimp only
    by_cases hcap : r.maxInvalidAttempts ≠ 0 ∧
        t₂.session.attempts n.label + 1 > r.maxInvalidAttempts
    · simp only [hcap, ne_eq, not_false_eq_true, and_self, if_true]
      exact ⟨rfl, (counted.note _ _).finish⟩
    · simp only [hcap, if_false]
      exact ⟨rfl, counted⟩

theorem answer (h : Alike R t₁ t₂) (r : Rules) (n : Node) (reply : String) :
    Agree R (t₁.answer r n reply) (t₂.answer r n reply) := by
  unfold Turn.answer
  cases n.read Step.QuestionData.decode with
  | error f => exact ⟨rfl, h⟩
  | ok d =>
    have cleared := h.modify fun s => { s with waiting := none }
    dsimp only
    cases d.question.accepts reply with
    | error f => exact ⟨rfl, cleared⟩
    | ok isValid =>
      cases isValid with
      | true => exact cleared.take n d reply
      | false => exact cleared.refuse r n reply

theorem judge (ho : o₁.Alike o₂ R) (h : Alike R t₁ t₂) (w : Workflow) (r : Rules) (n : Node)
    (hn : n ∈ w.root.preorder) (reply : String) :
    Alike R (t₁.judge o₁ w r n hn reply) (t₂.judge o₂ w r n hn reply) := by
  obtain ⟨a, u₁, u₂, h₁, h₂, hu⟩ := (h.answer r n reply).split
  match a with
  | .error f =>
    rw [judge_of_error hn h₁, judge_of_error hn h₂]
    exact hu.note _ _
  | .ok none =>
    rw [judge_of_none hn h₁, judge_of_none hn h₂]
    exact hu
  | .ok (some m) =>
    rw [judge_of_some hn h₁, judge_of_some hn h₂]
    exact hu.run ho w r m _

theorem resume (ho : o₁.Alike o₂ R) (h : Alike R t₁ t₂) (w : Workflow) (r : Rules)
    (reply : String) : Alike R (t₁.resume o₁ w r reply) (t₂.resume o₂ w r reply) := by
  cases hq : w.question? t₂.session.waiting with
  | some n =>
    rw [resume_of_some hq, resume_of_some (h.session ▸ hq)]
    exact h.judge ho w r n _ reply
  | none =>
    rw [resume_of_none hq, resume_of_none (h.session ▸ hq)]
    exact (h.note _ _).finish

end Alike

end Turn

end ChatFlow
