import ChatFlow.Proofs.Serialization
import ChatFlow.Service

/-!
# Handing over is a run

The service hands the messages of a report to its dispatcher and lets the workers finish. Draining is
one of the runs that may happen: `Drains` says that the workers get on by some moves, and that the
handler takes the messages in the order of these moves. So nothing gets lost between the report and the
bot, and what comes of the messages is what the bot makes of them one after the other
(`exists_run_handleAll`).
-/

namespace ChatFlow

namespace Dispatcher

variable {σ : Type} {handle : Handler σ} {d d' d'' : Dispatcher} {x x' x'' : σ}
  {events later : List Event} {i j q : Nat} {c c' : String} {s : Stage} {m : Inbound}

/-- What a handler makes of a state by the messages that are handled in a history, and what happens
then. -/
def replay (handle : Handler σ) : σ → List Occurrence → σ × List Event
  | x, [] => (x, [])
  | x, .handled c m _ :: h =>
    let (x, events, fault) := handle x c m
    let (x, later) := replay handle x h
    (x, events ++ (fault.map fun f => Event.noted (breakdown c m f)).toList ++ later)
  | x, _ :: h => replay handle x h

theorem replay_append (x : σ) (h h' : List Occurrence) : replay handle x (h ++ h') =
    ((replay handle (replay handle x h).1 h').1,
      (replay handle x h).2 ++ (replay handle (replay handle x h).1 h').2) := by
  fun_induction replay handle x h with
  | case1 x => rfl
  | case2 x c m fault h x' events fault' heq x'' later heq' ih =>
    rw [heq'] at ih
    simp only [List.cons_append, replay, heq, ih, List.append_assoc]
  | case3 x o h hne ih =>
    rw [List.cons_append, replay, ih]
    exact hne

theorem Run.trans {h h' : List Occurrence} (hr : Run d h d') (hr' : Run d' h' d'') :
    Run d (h ++ h') d'' := by
  induction hr' with
  | start => rwa [List.append_nil]
  | step _ hs ih => rw [← List.append_assoc]; exact ih.step hs

/-- Workers get on from one dispatcher to another, and a handler takes their messages from one state to
another. -/
def Drains (handle : Handler σ) (d : Dispatcher) (x : σ) (p : Dispatcher × σ × List Event) : Prop :=
  ∃ h, Run d h p.1 ∧ (∀ c, submitted c h = []) ∧ replay handle x h = p.2

namespace Drains

theorem refl : Drains handle d x (d, x, []) := ⟨[], .start, fun _ => rfl, rfl⟩

theorem trans (h : Drains handle d x (d', x', events))
    (h' : Drains handle d' x' (d'', x'', later)) :
    Drains handle d x (d'', x'', events ++ later) := by
  obtain ⟨es, hr, hno, hx⟩ := h
  obtain ⟨es', hr', hno', hx'⟩ := h'
  refine ⟨es ++ es', hr.trans hr', fun c => ?_, ?_⟩
  · rw [submitted_append, hno, hno']; rfl
  · rw [replay_append, hx, hx']

theorem move {es : List Occurrence} (hs : Step d es d') (hno : ∀ c, submitted c es = [])
    (hx : replay handle x es = (x, [])) : Drains handle d x (d', x, []) :=
  ⟨es, Run.start.step hs, hno, hx⟩

theorem finish (handle : Handler σ) (x : σ) (h : d.workers[i]? = some ⟨c, .busy q m⟩) :
    Drains handle d x (d.finish i c q, (handle x c m).1, (handle x c m).2.1 ++
      ((handle x c m).2.2.map fun f => Event.noted (breakdown c m f)).toList) := by
  refine ⟨_, Run.start.step (.finish h (handle x c m).2.2), fun _ => rfl, ?_⟩
  simp only [List.nil_append, replay, List.append_nil]

end Drains

/-! ### A worker that goes on -/

theorem Serves.of_place (hij : i ≠ j) (h : (d.place i c s).Serves j c') :
    d.Serves j c' := by
  obtain ⟨s', hw, hs'⟩ := h
  exact ⟨s', by rwa [place, List.getElem?_set_ne hij] at hw, hs'⟩

theorem Serves.ne (h : d.Serves j c')
    (hw : ∀ c s, d.workers[i]? = some ⟨c, s⟩ → s = .done) : i ≠ j := by
  rintro rfl
  obtain ⟨s, hi, hs⟩ := h
  exact hs (hw c' s hi)

theorem drains_work (handle : Handler σ) (d : Dispatcher) (i : Nat) (x : σ) :
    Drains handle d x (work handle d i x) := by
  fun_induction work handle d i x with
  | case1 d x hw => exact .refl
  | case2 d x c hw => exact .refl
  | case3 d x c hw ih => exact (Drains.move (.begin hw) (fun _ => rfl) rfl).trans ih
  | case4 d x c q hw hq => exact .move (.leave hw hq) (fun _ => rfl) rfl
  | case5 d x c q hw m ms hq ih => exact (Drains.move (.take hw hq) (fun _ => rfl) rfl).trans ih
  | case6 d x c q m hw x' events fault hh d' x'' later heq ih =>
    rw [heq] at ih
    have hfinish := Drains.finish handle x hw
    rw [hh] at hfinish
    exact hfinish.trans ih

/-- A worker that is let go on leaves in the end, and no other comes. -/
theorem serves_of_work (handle : Handler σ) (d : Dispatcher) (i : Nat) (x : σ)
    (h : (work handle d i x).1.Serves j c) : d.Serves j c ∧ i ≠ j := by
  fun_induction work handle d i x with
  | case1 d x hw => exact ⟨h, h.ne fun _ _ hi => by rw [hw] at hi; cases hi⟩
  | case2 d x c' hw => exact ⟨h, h.ne fun _ _ hi => by rw [hw] at hi; cases hi; rfl⟩
  | case3 d x c' hw ih =>
    obtain ⟨h, hij⟩ := ih h
    have h' : ((d.lane c').2.place i c' (.ready (d.lane c').1)).Serves j c := h
    obtain ⟨s, hj, hs⟩ := h'.of_place hij
    exact ⟨⟨s, by rwa [workers_lane] at hj, hs⟩, hij⟩
  | case4 d x c' q hw hq =>
    have hij : i ≠ j := h.ne fun _ _ hi => by
      rw [leave, place, List.getElem?_set_self (List.getElem?_eq_some_iff.1 hw).1] at hi
      cases hi; rfl
    exact ⟨h.of_place hij, hij⟩
  | case5 d x c' q hw m ms hq ih => exact ⟨(ih h).1.of_place (ih h).2, (ih h).2⟩
  | case6 d x c' q m hw x' events fault hh d' x'' later heq ih =>
    rw [heq] at ih
    exact ⟨(ih h).1.of_place (ih h).2, (ih h).2⟩

/-! ### All workers -/

theorem drains_workAll (handle : Handler σ) (is : List Nat) (d : Dispatcher) (x : σ) :
    Drains handle d x (workAll handle is d x) := by
  induction is generalizing d x with
  | nil => exact .refl
  | cons i is ih => exact (drains_work handle d i x).trans (ih _ _)

theorem serves_of_workAll (handle : Handler σ) (is : List Nat) (d : Dispatcher) (x : σ)
    (h : (workAll handle is d x).1.Serves j c) : d.Serves j c ∧ j ∉ is := by
  induction is generalizing d x with
  | nil => exact ⟨h, nofun⟩
  | cons i is ih =>
    obtain ⟨h, hj⟩ := ih _ _ h
    obtain ⟨h, hij⟩ := serves_of_work handle d i x h
    exact ⟨h, by simp [Ne.symm hij, hj]⟩

theorem drains_drain (handle : Handler σ) (d : Dispatcher) (x : σ) :
    Drains handle d x (d.drain handle x) :=
  drains_workAll ..

theorem tasks_drain {h : List Occurrence} (hr : Run {} h d) (handle : Handler σ) (x : σ) :
    (d.drain handle x).1.tasks = [] := by
  obtain ⟨es, hr', -⟩ := drains_drain handle d x
  refine Assoc.eq_nil_of_get? fun c => ?_
  cases ht : (d.drain handle x).1.tasks.get? c with
  | none => rfl
  | some j =>
    obtain ⟨⟨s, hw, -⟩, hj⟩ := serves_of_workAll handle (List.range d.workers.length) d x
      ((hr.trans hr').sound.1.task_iff.1 ht)
    exact absurd (List.mem_range.2 (List.getElem?_eq_some_iff.1 hw).1) hj

end Dispatcher

/-! ### The messages of a report -/

namespace Service

open Dispatcher (Run Occurrence replay)

variable {κ ε σ : Type}

/-- A message as the dispatcher gets it. -/
def inbound (m : Message) : Inbound := ⟨m.text, m.displayName⟩

def arrival (m : Message) : Occurrence := .submitted m.conversation (inbound m)

theorem submitted_arrivals (c : String) (ms : List Message) :
    Dispatcher.submitted c (ms.map arrival) = (ms.filter (·.conversation = c)).map inbound := by
  induction ms with
  | nil => rfl
  | cons m ms ih =>
    rw [Dispatcher.submitted] at ih ⊢
    by_cases hc : m.conversation = c <;> simp [arrival, hc, ih]

theorem handled_arrivals (c : String) (ms : List Message) :
    Dispatcher.handled c (ms.map arrival) = [] := by
  induction ms with
  | nil => rfl
  | cons m ms ih => exact ih

theorem run_submitAll {h : List Occurrence} {d : Dispatcher} (hr : Run {} h d) (ms : List Message) :
    Run {} (h ++ ms.map arrival) (submitAll d ms).1 := by
  induction ms generalizing h d with
  | nil => rwa [List.map_nil, List.append_nil]
  | cons m ms ih =>
    rw [List.map_cons, List.append_cons]
    exact ih (hr.step (.submit m.conversation (inbound m)))

/-- The messages of a report are handed over in one run of the dispatcher: all are submitted, and the
workers get on until nobody is at work. Those of a conversation are handled in their order, and what
comes of the report is what the bot makes of its messages one after the other, in the order in which
they are handled. -/
theorem exists_run_handleAll (s : Service κ ε σ) (st : State κ ε σ) (now : Instant)
    (messages : List Message) :
    ∃ (h : List Occurrence) (d : Dispatcher) (log : List Log.Entry),
      Run {} (messages.map arrival ++ h) d ∧ d.tasks = [] ∧
      (∀ c, Dispatcher.handled c h = (messages.filter (·.conversation = c)).map inbound) ∧
      s.handleAll st now messages =
        ((replay (s.handler now) st h).1, Bot.noted log ++ (replay (s.handler now) st h).2) := by
  have hsubmitted := run_submitAll .start messages
  obtain ⟨h, hr, hno, hreplay⟩ := Dispatcher.drains_drain (s.handler now) (submitAll {} messages).1 st
  have hrun := hsubmitted.trans hr
  have htasks := Dispatcher.tasks_drain hsubmitted (s.handler now) st
  refine ⟨h, _, (submitAll {} messages).2, hrun, htasks, fun c => ?_, ?_⟩
  · obtain ⟨hd, ha⟩ := hrun.sound
    have hall := (ha c).handled_eq hd (by rw [htasks]; rfl)
    rwa [Dispatcher.handled_append, Dispatcher.submitted_append, hno, List.nil_append,
      List.append_nil, handled_arrivals, List.nil_append, submitted_arrivals] at hall
  · rw [hreplay]
    rfl

end Service

end ChatFlow
