import ChatFlow.Turn.Basic

/-!
# Dispatching messages

A message waits in the lane of its conversation until the worker of that conversation takes it.
Lanes and workers are numbered in the order in which they come up; the dispatcher knows the lane and
the worker that a conversation has at present. A worker takes one message after the other and
leaves, with its lane, as soon as it finds the lane empty. A message that breaks the handler is
logged and left behind, those after it are handled all the same. `drain` lets the workers finish one
after the other.
-/

namespace ChatFlow

structure Inbound where
  text : String
  displayName : String
  deriving DecidableEq, Repr

inductive Stage where
  | fresh
  | ready (lane : Nat)
  /-- It has taken a message from a lane and handles it. -/
  | busy (lane : Nat) (m : Inbound)
  | done
  deriving DecidableEq, Repr

/-- How far a worker is from leaving, if its lane is empty. -/
def Stage.weight : Stage → Nat
  | fresh | busy .. => 2
  | ready _ => 1
  | done => 0

structure Worker where
  conversation : String
  stage : Stage
  deriving DecidableEq, Repr

structure Dispatcher where
  /-- The lane of each conversation that has one. -/
  lanes : Assoc Nat := []
  /-- The worker of each conversation that has one. -/
  tasks : Assoc Nat := []
  /-- What waits in each of the lanes that there ever were. -/
  queues : List (List Inbound) := []
  /-- All workers that there ever were. -/
  workers : List Worker := []
  deriving DecidableEq, Repr

namespace Dispatcher

def queue (d : Dispatcher) (q : Nat) : List Inbound := d.queues[q]?.getD []

def refill (d : Dispatcher) (q : Nat) (ms : List Inbound) : Dispatcher :=
  { d with queues := d.queues.set q ms }

def place (d : Dispatcher) (i : Nat) (c : String) (s : Stage) : Dispatcher :=
  { d with workers := d.workers.set i ⟨c, s⟩ }

/-- The lane of a conversation; it gets an empty one if it has none. -/
def lane (d : Dispatcher) (c : String) : Nat × Dispatcher :=
  match d.lanes.get? c with
  | some q => (q, d)
  | none => (d.queues.length,
      { d with lanes := d.lanes.put c d.queues.length, queues := d.queues ++ [[]] })

def isServed (d : Dispatcher) (c : String) : Bool :=
  ((d.tasks.get? c).bind (d.workers[·]?)).any (·.stage ≠ .done)

def hire (d : Dispatcher) (c : String) : Dispatcher :=
  { d with tasks := d.tasks.put c d.workers.length, workers := d.workers ++ [⟨c, .fresh⟩] }

/-- Accept a message, and see to it that its conversation is served. -/
def submit (d : Dispatcher) (c : String) (m : Inbound) : Dispatcher × List Log.Entry :=
  let (q, d) := d.lane c
  let d := d.refill q (d.queue q ++ [m])
  if d.isServed c then (d, [])
  else (d.hire c, [.plain .dispatcher .debug ("Starting message processor for client " ++ c)])

/-! ### What a worker does -/

def begin (d : Dispatcher) (i : Nat) (c : String) : Dispatcher :=
  let (q, d) := d.lane c
  d.place i c (.ready q)

/-- A worker takes the first message of a lane and leaves the others. -/
def take (d : Dispatcher) (i : Nat) (c : String) (q : Nat) (m : Inbound) (ms : List Inbound) :
    Dispatcher :=
  (d.refill q ms).place i c (.busy q m)

/-- A worker is done with a message, whatever became of it. -/
def finish (d : Dispatcher) (i : Nat) (c : String) (q : Nat) : Dispatcher := d.place i c (.ready q)

/-- A worker leaves, and its lane with it. -/
def leave (d : Dispatcher) (i : Nat) (c : String) : Dispatcher :=
  { d with lanes := d.lanes.erase c, tasks := d.tasks.erase c }.place i c .done

/-- What is logged about a message that broke the handler. -/
def breakdown (c : String) (m : Inbound) (f : Fault) : Log.Entry :=
  .failure .dispatcher (some c) ("Error processing message '" ++ Text.clip 50 m.text ++ "'") f

/-- How a handler takes a message: what happens, and what breaks it, if anything does. -/
abbrev Handler (σ : Type) := σ → String → Inbound → σ × List Event × Option Fault

/-! ### Letting them finish -/

/-- How far a worker is from leaving; one that never was has left. -/
def toDo (d : Dispatcher) (i : Nat) : Nat := d.workers[i]?.elim 0 (·.stage.weight)

def waiting (queues : List (List Inbound)) : Nat := queues.foldr (fun ms n => ms.length + n) 0

theorem waiting_set_lt {queues : List (List Inbound)} {q : Nat} {m : Inbound} {ms : List Inbound}
    (h : queues[q]? = some (m :: ms)) : waiting (queues.set q ms) < waiting queues := by
  induction queues generalizing q with
  | nil => cases h
  | cons ms' queues ih =>
    cases q with
    | zero =>
      cases h
      simp only [List.set_cons_zero, waiting, List.foldr_cons, List.length_cons]
      omega
    | succ q => exact Nat.add_lt_add_left (ih h) _

theorem getElem?_of_queue_eq_cons {d : Dispatcher} {q : Nat} {m : Inbound} {ms : List Inbound}
    (h : d.queue q = m :: ms) : d.queues[q]? = some (m :: ms) := by
  unfold queue at h
  cases hq : d.queues[q]? with
  | none => rw [hq] at h; cases h
  | some ms' => rw [hq] at h; exact congrArg some h

theorem waiting_lane (d : Dispatcher) (c : String) :
    waiting (d.lane c).2.queues = waiting d.queues := by
  unfold lane; split
  · rfl
  · show waiting (d.queues ++ [[]]) = _
    induction d.queues with
    | nil => rfl
    | cons ms queues ih => exact congrArg (ms.length + ·) ih

@[simp] theorem workers_lane (d : Dispatcher) (c : String) : (d.lane c).2.workers = d.workers := by
  unfold lane; split <;> rfl

theorem toDo_place {d : Dispatcher} {i : Nat} {w : Worker} (h : d.workers[i]? = some w)
    (c : String) (s : Stage) : (d.place i c s).toDo i = s.weight := by
  have hi := (List.getElem?_eq_some_iff.1 h).1
  simp [toDo, place, hi]

def work {σ : Type} (handle : Handler σ) (d : Dispatcher) (i : Nat) (s : σ) :
    Dispatcher × σ × List Event :=
  match _ : d.workers[i]? with
  | none | some ⟨_, .done⟩ => (d, s, [])
  | some ⟨c, .fresh⟩ => work handle (d.begin i c) i s
  | some ⟨c, .ready q⟩ =>
    match _ : d.queue q with
    | [] => (d.leave i c, s, [])
    | m :: ms => work handle (d.take i c q m ms) i s
  | some ⟨c, .busy q m⟩ =>
    let (s, events, fault) := handle s c m
    let (d, s, later) := work handle (d.finish i c q) i s
    (d, s, events ++ (fault.map fun f => Event.noted (breakdown c m f)).toList ++ later)
termination_by (waiting d.queues, d.toDo i)
decreasing_by
  · rename_i h
    have hw : waiting (d.begin i c).queues = waiting d.queues := d.waiting_lane c
    rw [hw, begin, toDo_place (by rw [workers_lane]; exact h), toDo, h]
    exact Prod.Lex.right _ (Nat.lt_succ_self 1)
  · exact Prod.Lex.left _ _ (waiting_set_lt (getElem?_of_queue_eq_cons ‹_›))
  · rename_i h
    rw [finish, toDo_place h, toDo, h]
    exact Prod.Lex.right _ (Nat.lt_succ_self 1)

/-- Let some workers go on until they are done, one after the other. -/
def workAll {σ : Type} (handle : Handler σ) :
    List Nat → Dispatcher → σ → Dispatcher × σ × List Event
  | [], d, s => (d, s, [])
  | i :: is, d, s =>
    let (d, s, events) := work handle d i s
    let (d, s, later) := workAll handle is d s
    (d, s, events ++ later)

def drain {σ : Type} (d : Dispatcher) (handle : Handler σ) (s : σ) :
    Dispatcher × σ × List Event :=
  workAll handle (List.range d.workers.length) d s

end Dispatcher

end ChatFlow
