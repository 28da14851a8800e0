import ChatFlow.Proofs.Bot.Handle
import ChatFlow.Proofs.Turn.Alike
import ChatFlow.Proofs.Turn.Prompts
import ChatFlow.Proofs.Turn.Request

/-!
# When the channel fails

A turn in a world outside that takes every message is compared with the same turn in one that takes
only some more and then refuses (`Outside.Outage`). As long as messages are taken the turns go the same
way (`InStep`); the first refusal ends the one turn, while the other goes on (`CutShort`). Every step
comes to one of the two (`follows_execute`), and so does a run (`run_follows`).
-/

namespace ChatFlow

variable {κ κ' : Type}

/-- Two worlds outside of which the one takes every message, and the other `k` more in states that
`R k` relates; otherwise they answer alike. -/
structure Outside.Outage (o : Outside κ) (o' : Outside κ') (R : Nat → κ → κ' → Prop) : Prop where
  accepts : ∀ {k w w'}, R k w w' → ∀ m, (o.send w m).1 = .ok ()
  send : ∀ {k w w'}, R (k + 1) w w' → ∀ m,
    (o'.send w' m).1 = .ok () ∧ R k (o.send w m).2.2 (o'.send w' m).2.2
  refuses : ∀ {w w'}, R 0 w w' → ∀ m, ∃ f, (o'.send w' m).1 = .error f
  fetch : ∀ {k w w'}, R k w w' → ∀ c,
    (o.fetch w c).1 = (o'.fetch w' c).1 ∧ R k (o.fetch w c).2 (o'.fetch w' c).2
  codecs : o.codecs = o'.codecs

/-- A world that answers calls as another one does, and that no message reaches. -/
def Outside.muted (o : Outside κ) : Outside κ := { o with send := fun w _ => (.ok (), [], w) }

theorem Outside.Outage.alike_muted {o : Outside κ} {o' : Outside κ'} {R : Nat → κ → κ' → Prop}
    (ho : o.Outage o' R) (k : Nat) : o.muted.Alike o'.muted (R k) where
  send hw _ := ⟨rfl, hw⟩
  fetch := ho.fetch
  codecs := ho.codecs

namespace Turn

/-- The endpoints that were called in a turn. -/
def calls (t : Turn κ) : List Endpoint.Call := Event.calls t.events

variable {R : Nat → κ → κ' → Prop} {limit : Nat} {t u : Turn κ} {t' u' : Turn κ'}

theorem Alike.messages {S : κ → κ' → Prop} (h : Alike S t t') : t.messages = t'.messages := by
  rw [Turn.messages, Turn.messages, Event.messages, Event.messages,
    ← Event.filterMap_deeds (fun _ => rfl) t.events, h.deeds, Event.filterMap_deeds fun _ => rfl]

theorem Alike.calls {S : κ → κ' → Prop} (h : Alike S t t') : t.calls = t'.calls := by
  rw [Turn.calls, Turn.calls, Event.calls, Event.calls,
    ← Event.filterMap_deeds (fun _ => rfl) t.events, h.deeds, Event.filterMap_deeds fun _ => rfl]

/-- Two turns have come to the same, and the messages that are still taken in the second fill it up to
`limit`. -/
def InStep (R : Nat → κ → κ' → Prop) (limit : Nat) (t : Turn κ) (t' : Turn κ') : Prop :=
  ∃ k, Alike (R k) t t' ∧ t'.messages.length + k = limit

/-- The second turn has stopped after `limit` messages, at the next message of the first. -/
structure CutShort (limit : Nat) (t : Turn κ) (t' : Turn κ') : Prop where
  lt : limit < t.messages.length
  messages : t'.messages = t.messages.take limit
  calls : t'.calls <+: t.calls

/-- Turns that are in step, or of which the second was cut short. -/
def Follows (R : Nat → κ → κ' → Prop) (limit : Nat) (t : Turn κ) (t' : Turn κ') : Prop :=
  InStep R limit t t' ∨ CutShort limit t t'

/-- Outcomes that agree of turns in step, or a failure that cuts the second turn short. -/
def Keeps {α : Type} (R : Nat → κ → κ' → Prop) (limit : Nat) (p : Except Fault α × Turn κ)
    (p' : Except Fault α × Turn κ') : Prop :=
  p.1 = p'.1 ∧ InStep R limit p.2 p'.2 ∨ (∃ f, p'.1 = .error f) ∧ CutShort limit p.2 p'.2

/-! ### Turns in step -/

namespace InStep

theorem of_alike (h : InStep R limit t t') {u : Turn κ} {u' : Turn κ'}
    (hu : ∀ k, Alike (R k) t t' → Alike (R k) u u') (hm : u'.messages = t'.messages) :
    InStep R limit u u' := by
  obtain ⟨k, ha, hk⟩ := h
  exact ⟨k, hu k ha, by rw [hm]; exact hk⟩

theorem session (h : InStep R limit t t') : t.session = t'.session := h.choose_spec.1.session

theorem note (h : InStep R limit t t') (e e' : Log.Entry) : InStep R limit (t.note e) (t'.note e') :=
  h.of_alike (fun _ ha => ha.note e e') (messages_note t' e')

theorem modify (h : InStep R limit t t') (f : Session → Session) :
    InStep R limit (t.modify f) (t'.modify f) :=
  h.of_alike (fun _ ha => ha.modify f) rfl

theorem finish (h : InStep R limit t t') : InStep R limit t.finish t'.finish :=
  h.of_alike (fun _ ha => ha.finish) (messages_finish t')

theorem messages (h : InStep R limit t t') :
    t'.messages = t.messages.take limit ∧ t.messages.length ≤ limit := by
  obtain ⟨k, ha, hk⟩ := h
  rw [ha.messages]
  have hle : t'.messages.length ≤ limit := by omega
  exact ⟨(List.take_of_length_le hle).symm, hle⟩

end InStep

/-! ### Turns cut short -/

namespace CutShort

theorem of_precedes (h : CutShort limit t t') (hu : t.Precedes u) : CutShort limit u t' := by
  obtain ⟨es, he, -⟩ := hu.events
  have hm : u.messages = t.messages ++ Event.messages es := by
    rw [Turn.messages, he]; exact List.filterMap_append
  have hc : u.calls = t.calls ++ Event.calls es := by
    rw [Turn.calls, he]; exact List.filterMap_append
  refine ⟨?_, ?_, ?_⟩
  · rw [hm, List.length_append]
    exact Nat.lt_of_lt_of_le h.lt (Nat.le_add_right ..)
  · rw [hm, List.take_append_of_le_length (Nat.le_of_lt h.lt)]
    exact h.messages
  · rw [hc]
    exact h.calls.trans (List.prefix_append ..)

theorem note (h : CutShort limit t t') (e : Log.Entry) : CutShort limit t (t'.note e) :=
  ⟨h.lt, (messages_note t' e).trans h.messages, by
    rw [show (t'.note e).calls = t'.calls from filterMap_note (fun _ => rfl) t' e]
    exact h.calls⟩

end CutShort

namespace Keeps

variable {α : Type} {p : Except Fault α × Turn κ} {p' : Except Fault α × Turn κ'}

theorem of_inStep {a : Except Fault α} (h : InStep R limit t t') : Keeps R limit (a, t) (a, t') :=
  Or.inl ⟨rfl, h⟩

theorem of_cutShort {a : Except Fault α} {f : Fault} (h : CutShort limit t t') (hu : t.Precedes u) :
    Keeps R limit (a, u) (.error f, t') :=
  Or.inr ⟨⟨f, rfl⟩, h.of_precedes hu⟩

theorem split (h : Keeps R limit p p') :
    (∃ a u u', p = (a, u) ∧ p' = (a, u') ∧ InStep R limit u u') ∨
      ∃ a f u u', p = (a, u) ∧ p' = (.error f, u') ∧ CutShort limit u u' := by
  obtain ⟨a, u⟩ := p
  obtain ⟨a', u'⟩ := p'
  rcases h with ⟨ha, hu⟩ | ⟨⟨f, ha⟩, hu⟩
  · obtain rfl : a = a' := ha
    exact Or.inl ⟨a, u, u', rfl, rfl, hu⟩
  · obtain rfl : a' = .error f := ha
    exact Or.inr ⟨a, f, u, u', rfl, rfl, hu⟩

end Keeps

/-! ### Each kind of step -/

section Steps

variable {o : Outside κ} {o' : Outside κ'}

theorem fst_send (t : Turn κ) (o : Outside κ) (c : Content) :
    (t.send o c).1 = (o.send t.world ⟨t.session.id, c⟩).1 := by
  simp only [send]
  split <;> rename_i heq <;> rw [heq]

theorem calls_send (t : Turn κ) (o : Outside κ) (c : Content) : (t.send o c).2.calls = t.calls := by
  have noted (es : List Log.Entry) (u : Turn κ) : (u.noteAll es).calls = u.calls := by
    induction es generalizing u with
    | nil => rfl
    | cons e es ih => exact (ih (u.note e)).trans (filterMap_note (fun _ => rfl) u e)
  simp only [send]
  split
  · rename_i log world _
    rw [Turn.calls, Event.calls, record, List.filterMap_append]
    exact (List.append_nil _).trans (noted log { t with world })
  · rename_i log world _
    exact noted log { t with world }

/-- A message is taken in both turns, or refused in the second, which has come to its limit. -/
theorem keeps_send (ho : o.Outage o' R) (h : InStep R limit t t') (c : Content) :
    Keeps R limit (t.send o c) (t'.send o' c) := by
  obtain ⟨k, ha, hk⟩ := h
  have hm : (⟨t.session.id, c⟩ : Outbound) = ⟨t'.session.id, c⟩ := by rw [ha.session]
  have hsent : t.send o c = (.ok (), (t.send o c).2) :=
    Prod.ext ((fst_send ..).trans (ho.accepts ha.world _)) rfl
  cases k with
  | zero =>
    obtain ⟨f, hf⟩ := ho.refuses ha.world ⟨t'.session.id, c⟩
    have hrefused : t'.send o' c = (.error f, (t'.send o' c).2) :=
      Prod.ext ((fst_send ..).trans hf) rfl
    have hlen : t'.messages.length = limit := hk
    refine Or.inr ⟨⟨f, by rw [hrefused]⟩, ?_, ?_, ?_⟩
    · rw [messages_of_send hsent, List.length_append, ha.messages, hlen]
      exact Nat.lt_succ_self limit
    · rw [messages_of_send hsent, messages_of_send_error hrefused, ha.messages, ← hlen,
        List.take_left]
    · rw [calls_send, calls_send, ha.calls]
  | succ k =>
    obtain ⟨hok, hw⟩ := ho.send ha.world ⟨t'.session.id, c⟩
    have hsent' : t'.send o' c = (.ok (), (t'.send o' c).2) := Prod.ext ((fst_send ..).trans hok) rfl
    refine Or.inl ⟨by rw [hsent, hsent'], k, ?_, ?_⟩
    · have haccepts := ho.accepts ha.world ⟨t'.session.id, c⟩
      simp only [Turn.send, hm]
      generalize o.send t.world _ = x at haccepts hw
      generalize o'.send t'.world _ = x' at hok hw
      obtain ⟨a, log, v⟩ := x
      obtain ⟨a', log', v'⟩ := x'
      obtain rfl : a = .ok () := haccepts
      obtain rfl : a' = .ok () := hok
      have moved : Alike (R k) { t with world := v } { t' with world := v' } :=
        ⟨ha.session, ha.isLive, hw, ha.deeds⟩
      exact ((moved.noteAll_right log').noteAll_left log).record _
    · rw [messages_of_send hsent', List.length_append, List.length_singleton]
      omega

theorem keeps_ask (ho : o.Outage o' R) (h : InStep R limit t t') (r : Rules) (n : Node) :
    Keeps R limit (t.ask o r n) (t'.ask o' r n) := by
  unfold ask
  cases n.read Step.QuestionData.decode with
  | error f => exact .of_inStep h
  | ok d =>
    rw [h.session]
    rcases (keeps_send ho h (r.prompt d.question (t'.session.fill d.question.text))).split with
      ⟨a, u, u', hu, hu', hstep⟩ | ⟨a, f, u, u', hu, hu', hcut⟩
    · simp only [hu, hu']
      cases a with
      | error f => exact .of_inStep hstep
      | ok => exact .of_inStep (hstep.modify _)
    · simp only [hu, hu']
      cases a with
      | error _ => exact .of_cutShort hcut (.refl u)
      | ok => exact .of_cutShort hcut (.of_eq rfl rfl)

/-- Once a message is refused, the items that are left are sent by the first turn only. -/
theorem keeps_sendItems (ho : o.Outage o' R) (h : InStep R limit t t') (is : List Step.ActionItem) :
    Keeps R limit (sendItems o t is) (sendItems o' t' is) := by
  induction is generalizing t t' with
  | nil => exact .of_inStep h
  | cons i is ih =>
    simp only [sendItems]
    cases i.text? with
    | none => exact ih h
    | some text =>
      rw [h.session]
      rcases (keeps_send ho h (.text (t'.session.fill text))).split with
        ⟨a, u, u', hu, hu', hstep⟩ | ⟨a, f, u, u', hu, hu', hcut⟩
      · simp only [hu, hu']
        cases a with
        | error f => exact .of_inStep hstep
        | ok => exact ih hstep
      · simp only [hu, hu']
        cases a with
        | error _ => exact .of_cutShort hcut (.refl u)
        | ok => exact .of_cutShort hcut (work_sendItems u o is).precedes

theorem keeps_perform (ho : o.Outage o' R) (h : InStep R limit t t') (a : Step.Action) :
    Keeps R limit (t.perform o a) (t'.perform o' a) := by
  unfold perform
  split
  · exact keeps_sendItems ho h a.items
  · exact .of_inStep (h.note _ _)
  · exact .of_inStep h

theorem keeps_act (ho : o.Outage o' R) (h : InStep R limit t t') (n : Node) :
    Keeps R limit (t.act o n) (t'.act o' n) := by
  unfold act
  cases n.read Step.Action.decode with
  | error f => exact .of_inStep h
  | ok action =>
    rcases (keeps_perform ho h action).split with
      ⟨a, u, u', hu, hu', hstep⟩ | ⟨a, f, u, u', hu, hu', hcut⟩
    · simp only [hu, hu']
      cases a with
      | error f => exact .of_inStep hstep
      | ok =>
        cases n.firstChild? with
        | some m => exact .of_inStep hstep
        | none => exact .of_inStep hstep.finish
    · simp only [hu, hu']
      cases a with
      | error _ => exact .of_cutShort hcut (.refl u)
      | ok =>
        cases n.firstChild? with
        | some m => exact .of_cutShort hcut (.refl u)
        | none => exact .of_cutShort hcut .finish

theorem messages_jump (t : Turn κ) (w : Workflow) (r : Rules) (n : Node) :
    (t.jump w r n).2.messages = t.messages := by
  simp only [jump]
  split
  · rfl
  · split
    · exact messages_note ..
    · split
      · rfl
      · exact messages_note ..

theorem messages_execute_of_ne {n : Node} (hq : n.kind ≠ .question) (ha : n.kind ≠ .action)
    (t : Turn κ) (o : Outside κ) (w : Workflow) (r : Rules) :
    (t.execute o w r n).2.messages = t.messages := by
  unfold execute
  split
  · exact absurd ‹_› hq
  · exact messages_noteAll ..
  · exact absurd ‹_› ha
  · exact (CallsOnce.request t o n).messages
  · rfl
  · exact messages_note ..
  · exact messages_jump ..
  · rfl

theorem request_muted (t : Turn κ) (o : Outside κ) (n : Node) :
    t.request o.muted n = t.request o n := by
  have hcall (q : Step.Request) : t.call o.muted q = t.call o q := by
    unfold call
    cases Endpoint.Call.ofStep? q t.session <;> rfl
  unfold request
  cases n.read Step.Request.decode with
  | error f => rfl
  | ok q => dsimp only; rw [hcall]

theorem execute_muted {n : Node} (hq : n.kind ≠ .question) (ha : n.kind ≠ .action) (t : Turn κ)
    (o : Outside κ) (w : Workflow) (r : Rules) : t.execute o.muted w r n = t.execute o w r n := by
  unfold execute
  split
  · exact absurd ‹_› hq
  · rfl
  · exact absurd ‹_› ha
  · exact request_muted t o n
  · rfl
  · rfl
  · rfl
  · rfl

theorem keeps_execute (ho : o.Outage o' R) (h : InStep R limit t t') (w : Workflow) (r : Rules)
    (n : Node) : Keeps R limit (t.execute o w r n) (t'.execute o' w r n) := by
  by_cases hq : n.kind = .question
  · simp only [execute, hq]
    exact keeps_ask ho h r n
  by_cases ha : n.kind = .action
  · simp only [execute, ha]
    exact keeps_act ho h n
  obtain ⟨k, halike, hk⟩ := h
  have hsame := halike.execute (ho.alike_muted k) w r n
  rw [execute_muted hq ha, execute_muted hq ha] at hsame
  exact Or.inl ⟨hsame.1, k, hsame.2, by rw [messages_execute_of_ne hq ha]; exact hk⟩

/-! ### Runs -/

theorem InStep.begin (h : InStep R limit t t') (n : Node) : InStep R limit (t.begin n) (t'.begin n) :=
  h.of_alike (fun _ ha => ha.begin n) (messages_begin t' n)

/-- A run in which the channel fails goes the same way as one in which it does not, or is cut short. -/
theorem follows_run (ho : o.Outage o' R) (w : Workflow) (r : Rules) (n : Node)
    (hn : n ∈ w.root.preorder) (h : InStep R limit t t') :
    Follows R limit (t.run o w r n hn) (t'.run o' w r n hn) := by
  fun_induction Turn.run t o w r n hn generalizing t' with
  | case1 t n hn f u hx =>
    rcases (keeps_execute ho (h.begin n) w r n).split with
      ⟨a, v, v', hv, hv', hstep⟩ | ⟨a, f', v, v', hv, hv', hcut⟩ <;>
      obtain ⟨rfl, rfl⟩ := Prod.mk.inj (hv.symm.trans hx) <;> rw [run_of_error hn hv']
    · exact Or.inl (hstep.note _ _)
    · exact Or.inr ((hcut.of_precedes (.note _)).note _)
  | case2 t n hn u hx =>
    rcases (keeps_execute ho (h.begin n) w r n).split with
      ⟨a, v, v', hv, hv', hstep⟩ | ⟨a, f', v, v', hv, hv', hcut⟩ <;>
      obtain ⟨rfl, rfl⟩ := Prod.mk.inj (hv.symm.trans hx)
    · rw [run_of_none hn hv']
      exact Or.inl hstep
    · rw [run_of_error hn hv']
      exact Or.inr (hcut.note _)
  | case3 t n hn u m hx ih =>
    rcases (keeps_execute ho (h.begin n) w r n).split with
      ⟨a, v, v', hv, hv', hstep⟩ | ⟨a, f', v, v', hv, hv', hcut⟩ <;>
      obtain ⟨rfl, rfl⟩ := Prod.mk.inj (hv.symm.trans hx)
    · rw [run_of_some hn hv']
      exact ih hstep
    · -- The second turn is over, and the first goes on to `m`.
      rw [run_of_error hn hv']
      exact Or.inr ((hcut.of_precedes (precedes_run ..)).note _)

theorem follows_runFrom (ho : o.Outage o' R) (w : Workflow) (r : Rules) (next : Option Node)
    (hn : ∀ n, next = some n → n ∈ w.root.preorder) (h : InStep R limit t t') :
    Follows R limit (t.runFrom o w r next hn) (t'.runFrom o' w r next hn) := by
  cases next with
  | none => exact Or.inl h
  | some n => exact follows_run ho w r n (hn n rfl) h

end Steps

end Turn

end ChatFlow
