import ChatFlow.Dispatch

/-!
# Messages of a conversation are handled one by one

`Step` is one piece of what happens at a dispatcher: a message is submitted, or a worker gets on by
one move, and `Run` is any interleaving of such pieces, with the history of what came in, was taken
and was handled. `Consistent` ties lanes, tasks and workers together: a conversation has a lane just
if it has a task, which is its one worker that is not done. So no message is lost between the
look into an empty lane and the leave, and nobody else takes from a lane (`serialized_without_loss`).
-/

namespace ChatFlow

/-- The lane that a worker has found. -/
def Stage.lane? : Stage → Option Nat
  | ready q | busy q _ => some q
  | fresh | done => none

/-- The message that a worker handles. -/
def Stage.message? : Stage → Option Inbound
  | busy _ m => some m
  | fresh | ready _ | done => none

namespace Dispatcher

/-- What is seen of a dispatcher from outside. -/
inductive Occurrence where
  | submitted (c : String) (m : Inbound)
  | taken (c : String) (m : Inbound)
  /-- A message was handled, or broke the handler. -/
  | handled (c : String) (m : Inbound) (fault : Option Fault)

/-- A message comes in, or a worker makes its next move. -/
inductive Step (d : Dispatcher) : List Occurrence → Dispatcher → Prop
  | submit (c : String) (m : Inbound) : Step d [.submitted c m] (d.submit c m).1
  | begin {i : Nat} {c : String} (h : d.workers[i]? = some ⟨c, .fresh⟩) : Step d [] (d.begin i c)
  | take {i q : Nat} {c : String} {m : Inbound} {ms : List Inbound}
      (h : d.workers[i]? = some ⟨c, .ready q⟩) (hq : d.queue q = m :: ms) :
      Step d [.taken c m] (d.take i c q m ms)
  | finish {i q : Nat} {c : String} {m : Inbound} (h : d.workers[i]? = some ⟨c, .busy q m⟩)
      (fault : Option Fault) : Step d [.handled c m fault] (d.finish i c q)
  -- Nothing comes between the look into the empty lane and the leave.
  | leave {i q : Nat} {c : String} (h : d.workers[i]? = some ⟨c, .ready q⟩) (hq : d.queue q = []) :
      Step d [] (d.leave i c)

/-- What may happen from a dispatcher on, and what it comes to then. -/
inductive Run (d : Dispatcher) : List Occurrence → Dispatcher → Prop
  | start : Run d [] d
  | step {h es : List Occurrence} {d₁ d₂ : Dispatcher} (hr : Run d h d₁) (hs : Step d₁ es d₂) :
      Run d (h ++ es) d₂

/-- The messages of a conversation that were submitted. -/
def submitted (c : String) (h : List Occurrence) : List Inbound :=
  h.filterMap fun
    | .submitted c' m => if c' = c then some m else none
    | _ => none

/-- The messages of a conversation that its workers have taken. -/
def taken (c : String) (h : List Occurrence) : List Inbound :=
  h.filterMap fun
    | .taken c' m => if c' = c then some m else none
    | _ => none

/-- The messages of a conversation that its workers are done with. -/
def handled (c : String) (h : List Occurrence) : List Inbound :=
  h.filterMap fun
    | .handled c' m _ => if c' = c then some m else none
    | _ => none

/-- What waits in the lane of a conversation. -/
def pending (d : Dispatcher) (c : String) : List Inbound :=
  ((d.lanes.get? c).map d.queue).getD []

/-- The message that the worker of a conversation handles. -/
def inHand? (d : Dispatcher) (c : String) : Option Inbound :=
  ((d.tasks.get? c).bind (d.workers[·]?)).bind (·.stage.message?)

/-- Worker `i` handles a message of a conversation. -/
def Handles (d : Dispatcher) (i : Nat) (c : String) : Prop :=
  ∃ q m, d.workers[i]? = some ⟨c, .busy q m⟩

/-- Worker `i` belongs to a conversation and is not done. -/
def Serves (d : Dispatcher) (i : Nat) (c : String) : Prop :=
  ∃ s, d.workers[i]? = some ⟨c, s⟩ ∧ s ≠ .done

/-- Lanes and tasks are those of the workers that are not done, one for each conversation. -/
structure Consistent (d : Dispatcher) : Prop where
  lane_lt : ∀ {c q}, d.lanes.get? c = some q → q < d.queues.length
  lane_inj : ∀ {c c' q}, d.lanes.get? c = some q → d.lanes.get? c' = some q → c = c'
  lane_iff_task : ∀ c, (d.lanes.get? c).isSome ↔ (d.tasks.get? c).isSome
  task_iff : ∀ {c i}, d.tasks.get? c = some i ↔ d.Serves i c
  lane_of_worker : ∀ {i : Nat} {c : String} {s : Stage} {q : Nat},
    d.workers[i]? = some ⟨c, s⟩ → s.lane? = some q → d.lanes.get? c = some q

/-- A conversation without a lane gets one with a message in it, and a worker. -/
def receive (d : Dispatcher) (c : String) (m : Inbound) : Dispatcher where
  lanes := d.lanes.put c d.queues.length
  tasks := d.tasks.put c d.workers.length
  queues := d.queues ++ [[m]]
  workers := d.workers ++ [⟨c, .fresh⟩]

variable {d : Dispatcher} {i j q : Nat} {c c' : String} {s s' : Stage} {m : Inbound}

/-! ### What the moves come to -/

namespace Consistent

theorem lane_eq_none_iff (hd : Consistent d) : d.lanes.get? c = none ↔ d.tasks.get? c = none := by
  have := hd.lane_iff_task c
  cases hl : d.lanes.get? c <;> cases ht : d.tasks.get? c <;> simp_all

theorem isServed_iff (hd : Consistent d) : d.isServed c ↔ (d.tasks.get? c).isSome := by
  unfold isServed
  cases ht : d.tasks.get? c with
  | none => simp
  | some i =>
    obtain ⟨s, hw, hs⟩ := hd.task_iff.1 ht
    simp [hw, hs]

theorem submit_of_lane (hd : Consistent d) (hq : d.lanes.get? c = some q) (m : Inbound) :
    (d.submit c m).1 = d.refill q (d.queue q ++ [m]) := by
  have hserved : (d.refill q (d.queue q ++ [m])).isServed c = true := by
    show d.isServed c = true
    rw [hd.isServed_iff, ← hd.lane_iff_task, hq]; rfl
  have hlane : d.lane c = (q, d) := by rw [lane, hq]
  rw [submit, hlane]
  simp only [hserved, if_true]

theorem submit_of_no_lane (hd : Consistent d) (hq : d.lanes.get? c = none) (m : Inbound) :
    (d.submit c m).1 = d.receive c m := by
  have hlane : d.lane c = (d.queues.length, { d with
      lanes := d.lanes.put c d.queues.length, queues := d.queues ++ [[]] }) := by rw [lane, hq]
  have hserved (e : Dispatcher) (ht : e.tasks = d.tasks) : e.isServed c = false := by
    rw [isServed, ht, hd.lane_eq_none_iff.1 hq]; rfl
  rw [submit, hlane]
  simp [hserved, Dispatcher.refill, hire, queue, receive]

theorem eq_of_workers (hd : Consistent d) (h : d.workers[i]? = some ⟨c, s⟩) (hs : s ≠ .done)
    (h' : d.workers[j]? = some ⟨c, s'⟩) (hs' : s' ≠ .done) : i = j := by
  have ht := hd.task_iff.2 ⟨s, h, hs⟩
  rw [hd.task_iff.2 ⟨s', h', hs'⟩] at ht
  exact (Option.some.inj ht).symm

theorem exists_lane (hd : Consistent d) (h : d.workers[i]? = some ⟨c, s⟩) (hs : s ≠ .done) :
    ∃ q, d.lanes.get? c = some q := by
  have ht := hd.task_iff.2 ⟨s, h, hs⟩
  exact Option.isSome_iff_exists.1 ((hd.lane_iff_task c).2 (by rw [ht]; rfl))

theorem begin_eq (hq : d.lanes.get? c = some q) (i : Nat) :
    d.begin i c = d.place i c (.ready q) := by
  rw [begin, lane, hq]

/-! ### Consistency is kept -/

theorem empty : Consistent {} where
  lane_lt := nofun
  lane_inj := nofun
  lane_iff_task _ := .rfl
  task_iff := ⟨nofun, nofun⟩
  lane_of_worker := nofun

theorem refill (hd : Consistent d) (q : Nat) (ms : List Inbound) : Consistent (d.refill q ms) where
  lane_lt h := by rw [Dispatcher.refill, List.length_set]; exact hd.lane_lt h
  lane_inj := hd.lane_inj
  lane_iff_task := hd.lane_iff_task
  task_iff := hd.task_iff
  lane_of_worker := hd.lane_of_worker

theorem getElem?_place (h : d.workers[i]? = some ⟨c, s⟩) (s' : Stage) (j : Nat) :
    (d.place i c s').workers[j]? = if i = j then some ⟨c, s'⟩ else d.workers[j]? := by
  have hi := (List.getElem?_eq_some_iff.1 h).1
  simp [Dispatcher.place, List.getElem?_set, hi]

theorem place (hd : Consistent d) (h : d.workers[i]? = some ⟨c, s⟩) (hs : s ≠ .done)
    (hs' : s' ≠ .done) (hq : ∀ q, s'.lane? = some q → d.lanes.get? c = some q) :
    Consistent (d.place i c s') where
  lane_lt := hd.lane_lt
  lane_inj := hd.lane_inj
  lane_iff_task := hd.lane_iff_task
  task_iff {c' j} := by
    rw [Serves, getElem?_place h]
    show d.tasks.get? c' = some j ↔ _
    rw [hd.task_iff, Serves]
    by_cases hij : i = j
    · subst hij
      simp only [h, if_true]
      constructor
      · rintro ⟨_, heq, -⟩; cases heq; exact ⟨s', rfl, hs'⟩
      · rintro ⟨_, heq, -⟩; cases heq; exact ⟨s, rfl, hs⟩
    · simp only [if_neg hij]
  lane_of_worker {j c' s'' q} hj hl := by
    rw [getElem?_place h] at hj
    split at hj
    · cases hj; exact hq q hl
    · exact hd.lane_of_worker hj hl

theorem getElem?_receive (d : Dispatcher) (c : String) (m : Inbound) (j : Nat) :
    (d.receive c m).workers[j]? =
      if d.workers.length = j then some ⟨c, .fresh⟩ else d.workers[j]? := by
  show (d.workers ++ [_])[j]? = _
  split
  · subst j; exact List.getElem?_concat_length
  · rcases Nat.lt_or_ge j d.workers.length with hj | hj
    · exact List.getElem?_append_left hj
    · rw [List.getElem?_eq_none hj, List.getElem?_eq_none (by simp; omega)]

theorem receive (hd : Consistent d) (hq : d.lanes.get? c = none) (m : Inbound) :
    Consistent (d.receive c m) where
  lane_lt {c' q} h := by
    show q < (d.queues ++ [[m]]).length
    rw [List.length_append, List.length_singleton]
    replace h : (d.lanes.put c d.queues.length).get? c' = some q := h
    rw [Assoc.get?_put] at h
    split at h
    · cases h; omega
    · have := hd.lane_lt h; omega
  lane_inj {c₁ c₂ q} h₁ h₂ := by
    replace h₁ : (d.lanes.put c d.queues.length).get? c₁ = some q := h₁
    replace h₂ : (d.lanes.put c d.queues.length).get? c₂ = some q := h₂
    rw [Assoc.get?_put] at h₁ h₂
    split at h₁ <;> split at h₂
    · simp_all
    · cases h₁; exact absurd (hd.lane_lt h₂) (Nat.lt_irrefl _)
    · cases h₂; exact absurd (hd.lane_lt h₁) (Nat.lt_irrefl _)
    · exact hd.lane_inj h₁ h₂
  lane_iff_task c' := by
    show ((d.lanes.put c _).get? c').isSome ↔ ((d.tasks.put c _).get? c').isSome
    rw [Assoc.get?_put, Assoc.get?_put]
    split
    · simp
    · exact hd.lane_iff_task c'
  task_iff {c' j} := by
    show (d.tasks.put c d.workers.length).get? c' = some j ↔ _
    have hno := hd.lane_eq_none_iff.1 hq
    rw [Assoc.get?_put, Serves, getElem?_receive]
    by_cases hj : d.workers.length = j
    · subst hj
      by_cases hc : c = c'
      · subst hc; simp
      · -- The number of the newcomer belonged to nobody before.
        have : d.tasks.get? c' ≠ some d.workers.length := fun h => by
          obtain ⟨s, hw, -⟩ := hd.task_iff.1 h
          simp at hw
        simp [hc, this]
    · by_cases hc : c = c'
      · subst hc
        have (s : Stage) (hw : d.workers[j]? = some ⟨c, s⟩) : s = .done :=
          Classical.byContradiction fun hs => by
            rw [hd.task_iff.2 ⟨s, hw, hs⟩] at hno; cases hno
        simpa [hj] using this
      · simp only [if_neg hc, if_neg hj]; exact hd.task_iff
  lane_of_worker {j c' s q} hj hl := by
    show (d.lanes.put c d.queues.length).get? c' = some q
    rw [getElem?_receive] at hj
    split at hj
    · cases hj; cases hl
    · have h := hd.lane_of_worker hj hl
      rw [Assoc.get?_put, if_neg]
      · exact h
      · rintro rfl; rw [hq] at h; cases h

theorem leave (hd : Consistent d) (h : d.workers[i]? = some ⟨c, s⟩) (hs : s ≠ .done) :
    Consistent (d.leave i c) where
  lane_lt {c' q} hl := by
    replace hl : (d.lanes.erase c).get? c' = some q := hl
    rw [Assoc.get?_erase] at hl
    split at hl
    · cases hl
    · exact hd.lane_lt hl
  lane_inj {c₁ c₂ q} h₁ h₂ := by
    replace h₁ : (d.lanes.erase c).get? c₁ = some q := h₁
    replace h₂ : (d.lanes.erase c).get? c₂ = some q := h₂
    rw [Assoc.get?_erase] at h₁ h₂
    split at h₁ <;> split at h₂
    · cases h₁
    · cases h₁
    · cases h₂
    · exact hd.lane_inj h₁ h₂
  lane_iff_task c' := by
    show ((d.lanes.erase c).get? c').isSome ↔ ((d.tasks.erase c).get? c').isSome
    rw [Assoc.get?_erase, Assoc.get?_erase]
    split
    · rfl
    · exact hd.lane_iff_task c'
  task_iff {c' j} := by
    show (d.tasks.erase c).get? c' = some j ↔ ∃ s', (d.place i c .done).workers[j]? = _ ∧ _
    rw [Assoc.get?_erase, getElem?_place h]
    by_cases hij : i = j
    · subst hij
      have : d.tasks.get? c' = some i → c = c' := fun ht => by
        obtain ⟨_, hw, -⟩ := hd.task_iff.1 ht
        rw [h] at hw; cases hw; rfl
      by_cases hc : c = c'
      · simp [hc]
      · simpa [hc] using fun ht => hc (this ht)
    · by_cases hc : c = c'
      · subst hc
        have (s' : Stage) (hw : d.workers[j]? = some ⟨c, s'⟩) : s' = .done :=
          Classical.byContradiction fun hs' => hij (hd.eq_of_workers h hs hw hs')
        simpa [hij] using this
      · simp only [if_neg hc, if_neg hij]; exact hd.task_iff
  lane_of_worker {j c' s' q} hj hl := by
    show (d.lanes.erase c).get? c' = some q
    replace hj : (d.place i c .done).workers[j]? = some ⟨c', s'⟩ := hj
    rw [getElem?_place h] at hj
    split at hj
    · cases hj; cases hl
    · rename_i hij
      rw [Assoc.get?_erase, if_neg]
      · exact hd.lane_of_worker hj hl
      · -- The lane goes, but no other worker of the conversation is there to miss it.
        rintro rfl
        refine hij (hd.eq_of_workers h hs hj ?_)
        rintro rfl; cases hl

theorem step {es : List Occurrence} {d' : Dispatcher} (hd : Consistent d) (hs : Step d es d') :
    Consistent d' := by
  cases hs with
  | submit c m =>
    cases hq : d.lanes.get? c with
    | some q => rw [hd.submit_of_lane hq]; exact hd.refill _ _
    | none => rw [hd.submit_of_no_lane hq]; exact hd.receive hq m
  | begin h =>
    obtain ⟨q, hq⟩ := hd.exists_lane h nofun
    rw [begin_eq hq]
    exact hd.place h nofun nofun fun _ hl => by cases hl; exact hq
  | take h hq =>
    exact (hd.refill _ _).place h nofun nofun fun _ hl => by cases hl; exact hd.lane_of_worker h rfl
  | finish h =>
    exact hd.place h nofun nofun fun _ hl => by cases hl; exact hd.lane_of_worker h rfl
  | leave h => exact hd.leave h nofun

end Consistent

/-! ### What waits and what is in hand -/

theorem pending_of_lane (hq : d.lanes.get? c = some q) : d.pending c = d.queue q := by
  rw [pending, hq]; rfl

theorem pending_of_no_lane (hq : d.lanes.get? c = none) : d.pending c = [] := by
  rw [pending, hq]; rfl

theorem inHand?_of_no_task (ht : d.tasks.get? c = none) : d.inHand? c = none := by
  rw [inHand?, ht]; rfl

namespace Consistent

theorem inHand?_eq (hd : Consistent d) (h : d.workers[i]? = some ⟨c, s⟩) (hs : s ≠ .done) :
    d.inHand? c = s.message? := by
  rw [inHand?, hd.task_iff.2 ⟨s, h, hs⟩]
  show (d.workers[i]?).bind _ = _
  rw [h]; rfl

theorem pending_refill (hd : Consistent d) (hq : d.lanes.get? c = some q) (ms : List Inbound)
    (c' : String) : (d.refill q ms).pending c' = if c = c' then ms else d.pending c' := by
  have hlt := hd.lane_lt hq
  split
  · subst c'
    rw [pending_of_lane (d := d.refill q ms) hq]
    simp [queue, Dispatcher.refill, hlt]
  · rename_i hc
    cases hq' : d.lanes.get? c' with
    | none => rw [pending_of_no_lane hq', pending_of_no_lane (d := d.refill q ms) hq']
    | some q' =>
      have hne : q ≠ q' := by rintro rfl; exact hc (hd.lane_inj hq hq')
      rw [pending_of_lane hq', pending_of_lane (d := d.refill q ms) hq']
      simp [queue, Dispatcher.refill, hne]

theorem inHand?_place (hd : Consistent d) (h : d.workers[i]? = some ⟨c, s⟩) (hs : s ≠ .done)
    (s' : Stage) (c' : String) :
    (d.place i c s').inHand? c' = if c = c' then s'.message? else d.inHand? c' := by
  unfold inHand?
  show ((d.tasks.get? c').bind ((d.place i c s').workers[·]?)).bind _ = _
  simp only [getElem?_place h]
  split
  · subst c'; simp [hd.task_iff.2 ⟨s, h, hs⟩]
  · rename_i hc
    cases ht : d.tasks.get? c' with
    | none => rfl
    | some j =>
      obtain ⟨_, hw, -⟩ := hd.task_iff.1 ht
      have hij : i ≠ j := by rintro rfl; rw [h] at hw; cases hw; exact hc rfl
      simp [hij]

theorem pending_receive (hd : Consistent d) (c : String) (m : Inbound) (c' : String) :
    (d.receive c m).pending c' = if c = c' then [m] else d.pending c' := by
  unfold pending
  show (((d.lanes.put c d.queues.length).get? c').map _).getD [] = _
  rw [Assoc.get?_put]
  split
  · simp [queue, Dispatcher.receive]
  · cases hq : d.lanes.get? c' with
    | none => rfl
    | some q => simp [queue, Dispatcher.receive, List.getElem?_append_left (hd.lane_lt hq)]

theorem inHand?_receive (hd : Consistent d) (hq : d.lanes.get? c = none) (m : Inbound)
    (c' : String) : (d.receive c m).inHand? c' = d.inHand? c' := by
  have hno := hd.lane_eq_none_iff.1 hq
  unfold inHand?
  show (((d.tasks.put c d.workers.length).get? c').bind ((d.receive c m).workers[·]?)).bind _ = _
  simp only [getElem?_receive]
  rw [Assoc.get?_put]
  split
  · subst c'; simp [hno, Stage.message?]
  · cases ht : d.tasks.get? c' with
    | none => rfl
    | some j =>
      obtain ⟨_, hw, -⟩ := hd.task_iff.1 ht
      have hj := (List.getElem?_eq_some_iff.1 hw).1
      simp [Nat.ne_of_gt hj]

theorem pending_leave (i : Nat) (c c' : String) :
    (d.leave i c).pending c' = if c = c' then [] else d.pending c' := by
  unfold pending
  show (((d.lanes.erase c).get? c').map _).getD [] = _
  rw [Assoc.get?_erase]
  split <;> rfl

theorem inHand?_leave (hd : Consistent d) (h : d.workers[i]? = some ⟨c, .ready q⟩) (c' : String) :
    (d.leave i c).inHand? c' = d.inHand? c' := by
  by_cases hc : c = c'
  · subst c'
    have ht : (d.leave i c).tasks.get? c = none := by
      show (d.tasks.erase c).get? c = none
      rw [Assoc.get?_erase, if_pos rfl]
    rw [inHand?_of_no_task ht, hd.inHand?_eq h nofun]; rfl
  · have hp := hd.inHand?_place h nofun .done c'
    rw [if_neg hc] at hp
    rw [← hp]
    unfold inHand?
    show (((d.tasks.erase c).get? c').bind _).bind _ = _
    rw [Assoc.get?_erase, if_neg hc]; rfl

end Consistent

/-! ### What a run keeps -/

@[simp] theorem submitted_append (c : String) (h es : List Occurrence) :
    submitted c (h ++ es) = submitted c h ++ submitted c es :=
  List.filterMap_append

@[simp] theorem taken_append (c : String) (h es : List Occurrence) :
    taken c (h ++ es) = taken c h ++ taken c es :=
  List.filterMap_append

@[simp] theorem handled_append (c : String) (h es : List Occurrence) :
    handled c (h ++ es) = handled c h ++ handled c es :=
  List.filterMap_append

/-- Every message of a conversation that was submitted is handled, in hand or waiting, in the order
in which they came. -/
structure Accounted (h : List Occurrence) (d : Dispatcher) (c : String) : Prop where
  submitted : submitted c h = taken c h ++ d.pending c
  taken : taken c h = handled c h ++ (d.inHand? c).toList

theorem Accounted.step {h es : List Occurrence} {d' : Dispatcher} (hd : Consistent d)
    (ha : Accounted h d c) (hs : Step d es d') : Accounted (h ++ es) d' c := by
  obtain ⟨hsub, htak⟩ := ha
  cases hs with
  | submit c' m =>
    have quiet : Dispatcher.taken c [.submitted c' m] = [] := rfl
    have quiet' : Dispatcher.handled c [.submitted c' m] = [] := rfl
    cases hq : d.lanes.get? c' with
    | some q =>
      rw [hd.submit_of_lane hq]
      refine ⟨?_, ?_⟩
      · rw [submitted_append, taken_append, quiet, hsub, hd.pending_refill hq]
        by_cases hc : c' = c
        · subst hc; simp [Dispatcher.submitted, pending_of_lane hq]
        · simp [Dispatcher.submitted, hc]
      · rw [taken_append, handled_append, quiet, quiet', List.append_nil, List.append_nil]
        exact htak
    | none =>
      rw [hd.submit_of_no_lane hq]
      refine ⟨?_, ?_⟩
      · rw [submitted_append, taken_append, quiet, hsub, hd.pending_receive]
        by_cases hc : c' = c
        · subst hc; simp [Dispatcher.submitted, pending_of_no_lane hq]
        · simp [Dispatcher.submitted, hc]
      · rw [taken_append, handled_append, quiet, quiet', List.append_nil, List.append_nil,
          hd.inHand?_receive hq]
        exact htak
  | @begin i c' hw =>
    obtain ⟨q, hq⟩ := hd.exists_lane hw nofun
    rw [Consistent.begin_eq hq, List.append_nil]
    refine ⟨hsub, ?_⟩
    rw [hd.inHand?_place hw nofun, htak]
    split
    · subst c'; rw [hd.inHand?_eq hw nofun]; rfl
    · rfl
  | @take i q c' m ms hw hq =>
    have hl := hd.lane_of_worker hw rfl
    have hp : d.pending c' = m :: ms := by rw [pending_of_lane hl, hq]
    have hh := hd.inHand?_eq hw nofun
    refine ⟨?_, ?_⟩
    · show Dispatcher.submitted c _ = _ ++ (d.refill q ms).pending c
      rw [submitted_append, taken_append, hsub, hd.pending_refill hl]
      by_cases hc : c' = c
      · subst hc; simp [Dispatcher.submitted, Dispatcher.taken, hp]
      · simp [Dispatcher.submitted, Dispatcher.taken, hc]
    · rw [taken_append, handled_append, htak, take, (hd.refill q ms).inHand?_place hw nofun]
      by_cases hc : c' = c
      · subst hc; simp [Dispatcher.taken, Dispatcher.handled, hh, Stage.message?]
      · simp [Dispatcher.taken, Dispatcher.handled, hc]; rfl
  | @finish i q c' m hw fault =>
    have hh := hd.inHand?_eq hw nofun
    refine ⟨?_, ?_⟩
    · show _ = _ ++ d.pending c
      rw [submitted_append, taken_append, hsub]
      simp [Dispatcher.submitted, Dispatcher.taken]
    · rw [taken_append, handled_append, htak, finish, hd.inHand?_place hw nofun]
      by_cases hc : c' = c
      · subst hc; simp [Dispatcher.taken, Dispatcher.handled, hh, Stage.message?]
      · simp [Dispatcher.taken, Dispatcher.handled, hc]
  | @leave i q c' hw hq =>
    have hl := hd.lane_of_worker hw rfl
    rw [List.append_nil]
    refine ⟨?_, by rw [hd.inHand?_leave hw]; exact htak⟩
    rw [Consistent.pending_leave, hsub]
    split
    · -- The lane that goes is empty, so no message goes with it.
      subst c'; rw [pending_of_lane hl, hq]
    · rfl

/-- Where nobody is at work everything has been handled. -/
theorem Accounted.handled_eq {h : List Occurrence} (ha : Accounted h d c) (hd : Consistent d)
    (ht : d.tasks.get? c = none) : Dispatcher.handled c h = Dispatcher.submitted c h := by
  rw [ha.submitted, ha.taken, pending_of_no_lane (hd.lane_eq_none_iff.2 ht), inHand?_of_no_task ht]
  simp

theorem Run.sound {h : List Occurrence} (hr : Run {} h d) : Consistent d ∧ ∀ c, Accounted h d c := by
  induction hr with
  | start => exact ⟨.empty, fun _ => ⟨rfl, rfl⟩⟩
  | step _ hs ih => exact ⟨ih.1.step hs, fun c => (ih.2 c).step ih.1 hs⟩

/-- Messages of a conversation are handled one by one and none is lost. However submissions and the
moves of workers interleave: no two workers of a conversation handle a message at the same time;
what was taken is what was handled and the message in hand, and with what waits in the lane it is
what was submitted, in that order; messages wait only where a worker is still there to take them;
and once no conversation has a worker, no lane is left and all that was submitted has been
handled. -/
theorem serialized_without_loss {h : List Occurrence} (hr : Run {} h d) (c : String) :
    (∀ i j, d.Handles i c → d.Handles j c → i = j) ∧
    handled c h ++ (d.inHand? c).toList = taken c h ∧
    taken c h ++ d.pending c = submitted c h ∧
    (d.pending c ≠ [] → ∃ i, d.tasks.get? c = some i ∧ d.Serves i c) ∧
    (d.tasks = [] →
      d.lanes = [] ∧ (∀ w ∈ d.workers, w.stage = .done) ∧ handled c h = submitted c h) := by
  obtain ⟨hd, ha⟩ := hr.sound
  refine ⟨?_, (ha c).taken.symm, (ha c).submitted.symm, fun hp => ?_, fun ht => ?_⟩
  · rintro i j ⟨q, m, h⟩ ⟨q', m', h'⟩
    exact hd.eq_of_workers h nofun h' nofun
  · have hl : (d.lanes.get? c).isSome := by
      rw [Option.isSome_iff_ne_none]
      exact fun hq => hp (pending_of_no_lane hq)
    obtain ⟨i, hi⟩ := Option.isSome_iff_exists.1 ((hd.lane_iff_task c).1 hl)
    exact ⟨i, hi, hd.task_iff.1 hi⟩
  · have hno (c : String) : d.tasks.get? c = none := by rw [ht]; rfl
    refine ⟨Assoc.eq_nil_of_get? fun c => hd.lane_eq_none_iff.2 (hno c), fun w hw => ?_,
      (ha c).handled_eq hd (hno c)⟩
    obtain ⟨i, hi⟩ := List.mem_iff_getElem?.1 hw
    refine Classical.byContradiction fun hs => ?_
    have := hd.task_iff.2 ⟨w.stage, hi, hs⟩
    rw [hno] at this
    cases this

/-- A message that comes while the one before it is being handled, and breaks the handler. -/
theorem serialized_without_loss_after_breakdown :
    let one : Inbound := ⟨"one", "Ada"⟩
    let two : Inbound := ⟨"two", "Ada"⟩
    let h : List Occurrence := [.submitted "a" one, .taken "a" one, .submitted "a" two,
      .handled "a" one (some .breakdown), .taken "a" two, .handled "a" two none]
    let d := ((((((((({} : Dispatcher).submit "a" one).1.begin 0 "a").take 0 "a" 0 one []).submit
      "a" two).1.finish 0 "a" 0).take 0 "a" 0 two []).finish 0 "a" 0).leave 0 "a")
    Run {} h d ∧ d.tasks = [] ∧ handled "a" h = [one, two] ∧ handled "a" h = submitted "a" h := by
  intro one two h d
  have hr := ((((Run.start (d := {})).step (.submit "a" one)).step
    (.begin (i := 0) (c := "a") (by decide +kernel))).step
    (@Step.take _ 0 0 "a" one [] (by decide +kernel) (by decide +kernel))).step (.submit "a" two)
  replace hr := ((hr.step (.finish (i := 0) (q := 0) (c := "a") (m := one) (by decide +kernel)
    (some .breakdown))).step
    (@Step.take _ 0 0 "a" two [] (by decide +kernel) (by decide +kernel))).step
    (.finish (i := 0) (q := 0) (c := "a") (m := two) (by decide +kernel) none)
  replace hr : Run {} h d := hr.step (.leave (i := 0) (q := 0) (c := "a") (by decide +kernel)
    (by decide +kernel))
  have ht : d.tasks = [] := by decide +kernel
  obtain ⟨-, -, -, -, hidle⟩ := serialized_without_loss hr "a"
  exact ⟨hr, ht, by decide +kernel, (hidle ht).2.2⟩

end Dispatcher

end ChatFlow
