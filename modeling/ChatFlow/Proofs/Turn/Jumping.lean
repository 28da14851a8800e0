import ChatFlow.Proofs.Turn.Length
import ChatFlow.Proofs.Turn.Lifetime

/-!
# The counters of the jumps

A session counts its jumps, and nothing but a jump that can be read touches a counter
(`jumps_execute`). So the counters always say what the history of the session says: `Recorded` holds
of them before each step of a turn, from its first one on (`Underway.iterate`).
-/

namespace ChatFlow

open Step (Jump)

/-- Whether a step is counted under a key: it is a jump that can be read, and has that key. -/
def Node.jumpsAs (n : Node) (r : Rules) (key : String) : Bool :=
  n.label = key && (n.jumpLimit? r).isSome

/-- How often the jumps with a key were executed. -/
def Event.jumps (r : Rules) (key : String) (es : List Event) : Nat :=
  (steps es).countP (·.jumpsAs r key)

/-- How often the step with an id was executed. -/
def Event.executions (id : String) (es : List Event) : Nat :=
  (steps es).countP (·.id = some id)

theorem Node.jumpsAs_of_ne_jump {n : Node} (hk : n.kind ≠ .jump) (r : Rules) (key : String) :
    n.jumpsAs r key = false := by
  simp [jumpsAs, jumpLimit?, hk]

theorem Node.jumpsAs_of_read {n : Node} (hk : n.kind = .jump) {d : Jump}
    (hd : n.read Jump.decode = .ok d) (r : Rules) (key : String) :
    n.jumpsAs r key = decide (n.label = key) := by
  simp [jumpsAs, jumpLimit?, hk, hd]

theorem Node.jumpsAs_of_unread {n : Node} {f : Fault} (hd : n.read Jump.decode = .error f)
    (r : Rules) (key : String) : n.jumpsAs r key = false := by
  simp [jumpsAs, jumpLimit?, hd]

namespace Turn

variable {κ : Type} {o : Outside κ} {w : Workflow} {r : Rules} {t t' : Turn κ} {n m : Node}

/-! ### One step -/

theorem jumpCounts_execute_of_ne (hk : n.kind ≠ .jump) (t : Turn κ) (o : Outside κ) (w : Workflow)
    (r : Rules) : (t.execute o w r n).2.session.jumpCounts = t.session.jumpCounts :=
  (touches_execute t o w r n).jumpCounts_of_ne hk

theorem jump_of_read {d : Jump} (hd : n.read Jump.decode = .ok d) (t : Turn κ) (w : Workflow)
    (r : Rules) :
    (t.jump w r n).1 = .ok (if t.session.jumps n.label + 1 ≤ d.limit r.maxJumps then
        w.lookup? d.target else none) ∧
      (t.jump w r n).2.session = { t.session with
        jumpCounts := t.session.jumpCounts.put n.label (t.session.jumps n.label + 1) } := by
  simp only [jump, hd]
  by_cases hle : t.session.jumps n.label + 1 ≤ d.limit r.maxJumps
  · rw [if_neg (Int.not_lt.2 hle), if_pos hle]
    cases w.lookup? d.target <;> exact ⟨rfl, rfl⟩
  · rw [if_pos (Int.not_le.1 hle), if_neg hle]
    exact ⟨rfl, rfl⟩

theorem jump_of_unread {f : Fault} (hd : n.read Jump.decode = .error f) (t : Turn κ) (w : Workflow)
    (r : Rules) : t.jump w r n = (.error f, t) := by
  simp only [jump, hd]

/-- A step adds one to the counter that it is counted under, and leaves all others. -/
theorem jumps_execute (t : Turn κ) (o : Outside κ) (w : Workflow) (r : Rules) (n : Node)
    (key : String) :
    (t.execute o w r n).2.session.jumps key =
      t.session.jumps key + if n.jumpsAs r key then 1 else 0 := by
  by_cases hk : n.kind = .jump
  · rw [execute, hk]
    dsimp only
    cases hd : n.read Jump.decode with
    | error f => rw [jump_of_unread hd, Node.jumpsAs_of_unread hd]; simp
    | ok d =>
      rw [Node.jumpsAs_of_read hk hd, Session.jumps, (jump_of_read hd t w r).2]
      by_cases hkey : n.label = key
      · subst hkey
        simp
      · rw [Assoc.get?_put_of_ne _ _ hkey]
        simp [hkey, Session.jumps]
  · rw [Session.jumps, jumpCounts_execute_of_ne hk, Node.jumpsAs_of_ne_jump hk]
    simp [Session.jumps]

theorem jumpCounts_answer (t : Turn κ) (r : Rules) (q : Node) (reply : String) :
    (t.answer r q reply).2.session.jumpCounts = t.session.jumpCounts := by
  have hj : Judged r q t.session (t.answer r q reply).1 (t.answer r q reply).2.session :=
    judged_of_answer rfl
  generalize (t.answer r q reply).1 = next at hj
  generalize (t.answer r q reply).2.session = s' at hj
  cases hj with
  | accepted _ _ hjumps _ => exact hjumps
  | unread _ | failed _ | turned _ | askedAgain _ | givenUp => rfl

/-! ### Turns -/

/-- What was executed in a session are steps of the workflow, and its counters say how often each of
the jumps among them was. -/
structure Recorded (w : Workflow) (r : Rules) (s : Session) (es : List Event) : Prop where
  mem : ∀ n ∈ Event.steps es, n ∈ w.root.preorder
  jumps : ∀ key, s.jumps key = Event.jumps r key es

variable {s s' : Session} {es es' past : List Event}

theorem Recorded.congr (h : Recorded w r s es) (hj : s'.jumpCounts = s.jumpCounts)
    (hs : Event.steps es' = Event.steps es) : Recorded w r s' es' where
  mem := hs ▸ h.mem
  jumps key := by rw [Session.jumps, hj, Event.jumps, hs]; exact h.jumps key

theorem Recorded.fresh (hj : s.jumpCounts = []) (hs : Event.steps es = []) : Recorded w r s es where
  mem n hn := by rw [hs] at hn; cases hn
  jumps key := by rw [Session.jumps, hj, Event.jumps, hs]; rfl

/-- A turn is underway: the step that comes next, if any, is one of the workflow, and all before it
is recorded. -/
structure Underway (w : Workflow) (r : Rules) (past : List Event) (p : Option Node × Turn κ) :
    Prop where
  mem : ∀ n, p.1 = some n → n ∈ w.root.preorder
  recorded : Recorded w r p.2.session (past ++ p.2.events)

theorem recorded_execute (hn : n ∈ w.root.preorder)
    (h : Recorded w r t.session (past ++ t.events)) :
    Recorded w r ((t.begin n).execute o w r n).2.session
      (past ++ ((t.begin n).execute o w r n).2.events) := by
  have hsteps := steps_past_execute past t o w r n
  refine ⟨fun m hm => ?_, fun key => ?_⟩
  · rw [hsteps, List.mem_append, List.mem_singleton] at hm
    rcases hm with hm | rfl
    · exact h.mem m hm
    · exact hn
  · have hbefore : (t.begin n).session.jumps key = Event.jumps r key (past ++ t.events) :=
      h.jumps key
    rw [jumps_execute, hbefore, Event.jumps, Event.jumps, hsteps, List.countP_append,
      List.countP_singleton]
    split <;> simp

theorem Underway.pass {p : Option Node × Turn κ} (h : Underway w r past p) :
    Underway w r past (pass o w r p) := by
  obtain ⟨_ | n, t⟩ := p
  · exact h
  · have hr := recorded_execute (o := o) (h.mem n rfl) h.recorded
    rw [Turn.pass]
    split <;> rename_i hx <;> rw [hx] at hr
    · refine ⟨fun _ hm => absurd hm (by simp), hr.congr rfl ?_⟩
      rw [Event.steps_append, Event.steps_append]
      exact congrArg (_ ++ ·) (steps_fail ..)
    · refine ⟨fun m hm => ?_, hr⟩
      subst hm
      exact (execute_next (h.mem n rfl) hx).1

theorem Underway.iterate {p : Option Node × Turn κ} (h : Underway w r past p) (k : Nat) :
    Underway w r past ((Turn.pass o w r)^[k] p) := by
  induction k with
  | zero => exact h
  | succ k ih => rw [Function.iterate_succ_apply']; exact ih.pass

end Turn

end ChatFlow
