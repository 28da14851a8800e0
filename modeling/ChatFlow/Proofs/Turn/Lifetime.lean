import ChatFlow.Proofs.Turn.Waiting

/-!
# How many steps are left

Where wrong answers are borne a limited number of times only, no session goes on for ever. What is
left to it is counted by `Session.stepsAfter`: the jumps that are left, the height of the step at
hand, and the wrong answers that it still bears, in this order of weight. The step that comes next,
in a run (`stepsAfter_of_next`) or after a reply (`Judged.stepsAfter_lt`), always has less left than
the one before it. So what was executed and what is left stay below a bound (`within_run`,
`within_judge`).
-/

namespace ChatFlow

open Step (QuestionData)

mutual

theorem Node.height_le_length_preorder : (n : Node) → n.height ≤ n.preorder.length
  | ⟨_, _, _, children⟩ => by
    rw [height, preorder, List.length_cons]
    exact Nat.succ_le_succ (heightAll_le_length_preorderAll children)

theorem Node.heightAll_le_length_preorderAll :
    (ns : List Node) → heightAll ns ≤ (preorderAll ns).length
  | [] => Nat.zero_le _
  | n :: ns => by
    rw [heightAll, preorderAll, List.length_append]
    have hn := n.height_le_length_preorder
    have hns := heightAll_le_length_preorderAll ns
    omega

end

/-- How often a question is asked at most, until it is answered or the conversation ends. -/
def Rules.asks (r : Rules) : Nat := r.maxInvalidAttempts.toNat + 1

namespace Session

/-- No question has refused less than no answer. -/
def IsCounted (s : Session) : Prop := ∀ question, 0 ≤ s.attempts question

/-- How many wrong answers a question still bears. -/
def triesLeft (s : Session) (r : Rules) (n : Node) : Nat :=
  (r.maxInvalidAttempts - s.attempts n.label).toNat

/-- How many steps may still follow a step, if every jump that is left is taken and every question is
asked as often as wrong answers are borne. -/
def stepsAfter (s : Session) (w : Workflow) (r : Rules) (n : Node) : Nat :=
  w.budget r s.jumpCounts * (w.root.height * r.asks) + (n.height - 1) * r.asks + s.triesLeft r n

variable {s s' : Session} {w : Workflow} {r : Rules} {n m : Node}

theorem isCounted_start (now : Instant) (id name : String) : (start now id name).IsCounted :=
  fun _ => Int.le_refl 0

theorem IsCounted.congr (h : s.IsCounted) (hs : s'.invalidAttempts = s.invalidAttempts) :
    s'.IsCounted := fun question => by
  rw [attempts, hs]; exact h question

theorem stepsAfter_congr (hj : s'.jumpCounts = s.jumpCounts)
    (hi : s'.invalidAttempts = s.invalidAttempts) (w : Workflow) (r : Rules) (n : Node) :
    s'.stepsAfter w r n = s.stepsAfter w r n := by
  simp only [stepsAfter, triesLeft, attempts, hj, hi]

theorem triesLeft_lt_asks (h : s.IsCounted) (r : Rules) (n : Node) : s.triesLeft r n < r.asks := by
  have := h n.label
  unfold triesLeft Rules.asks
  omega

/-- A step and those after it are no more than the tree below it allows, once for each time that a
question is asked. -/
theorem stepsAfter_lt (h : s.IsCounted) (w : Workflow) (r : Rules) (n : Node) :
    s.stepsAfter w r n < w.budget r s.jumpCounts * (w.root.height * r.asks) + n.height * r.asks := by
  have htries := triesLeft_lt_asks h r n
  obtain ⟨k, hk⟩ := Nat.exists_eq_succ_of_ne_zero (Nat.ne_of_gt n.height_pos)
  rw [stepsAfter, hk, Nat.succ_sub_one, Nat.succ_mul]
  omega

theorem stepsAfter_lt_of_height_lt (h : s'.IsCounted)
    (hb : w.budget r s'.jumpCounts = w.budget r s.jumpCounts) (hlt : m.height < n.height) :
    s'.stepsAfter w r m < s.stepsAfter w r n := by
  have hm := stepsAfter_lt h w r m
  have hmul : m.height * r.asks ≤ (n.height - 1) * r.asks :=
    Nat.mul_le_mul_right _ (Nat.le_sub_one_of_lt hlt)
  rw [hb] at hm
  rw [stepsAfter.eq_1 s]
  omega

theorem stepsAfter_lt_of_budget_lt (h : s'.IsCounted) (hm : m ∈ w.root.preorder)
    (hlt : w.budget r s'.jumpCounts < w.budget r s.jumpCounts) :
    s'.stepsAfter w r m < s.stepsAfter w r n := by
  have hm' := stepsAfter_lt h w r m
  have hheight : m.height * r.asks ≤ w.root.height * r.asks :=
    Nat.mul_le_mul_right _ (Node.height_le_of_mem_preorder hm)
  have hbudget := Nat.mul_le_mul_right (w.root.height * r.asks) (Nat.succ_le_of_lt hlt)
  rw [Nat.succ_mul] at hbudget
  rw [stepsAfter.eq_1 s]
  omega

end Session

/-- How many steps a session of a workflow executes at most. -/
def Workflow.lifetime (w : Workflow) (r : Rules) : Nat :=
  (1 + w.budget r []) * w.root.preorder.length * r.asks

theorem Workflow.stepsAfter_lt_lifetime {w : Workflow} {n : Node} (hn : n ∈ w.root.preorder)
    (r : Rules) (now : Instant) (id name : String) :
    (Session.start now id name).stepsAfter w r n < w.lifetime r := by
  have hlt := Session.stepsAfter_lt (Session.isCounted_start now id name) w r n
  have hn' : n.height * r.asks ≤ w.root.height * r.asks :=
    Nat.mul_le_mul_right _ (Node.height_le_of_mem_preorder hn)
  calc (Session.start now id name).stepsAfter w r n
    _ < w.budget r [] * (w.root.height * r.asks) + w.root.height * r.asks :=
      Nat.lt_of_lt_of_le hlt (Nat.add_le_add_left hn' _)
    _ = (1 + w.budget r []) * w.root.height * r.asks := by rw [Nat.mul_assoc, Nat.add_mul]; omega
    _ ≤ w.lifetime r :=
      Nat.mul_le_mul_right _ (Nat.mul_le_mul_left _ w.root.height_le_length_preorder)

namespace Turn

variable {κ : Type} {o : Outside κ} {w : Workflow} {r : Rules} {t t' : Turn κ} {n m : Node}
  {reply : String}

/-! ### One step -/

theorem invalidAttempts_execute (t : Turn κ) (o : Outside κ) (w : Workflow) (r : Rules) (n : Node) :
    (t.execute o w r n).2.session.invalidAttempts = t.session.invalidAttempts :=
  (touches_execute t o w r n).invalidAttempts

/-- The step that comes next has less left than the one before it. -/
theorem stepsAfter_of_next (ht : t.session.IsCounted) (hn : n ∈ w.root.preorder)
    (h : t.execute o w r n = (.ok (some m), t')) :
    t'.session.IsCounted ∧ t'.session.stepsAfter w r m < t.session.stepsAfter w r n := by
  have hattempts := invalidAttempts_execute t o w r n
  rw [h] at hattempts
  have ht' := ht.congr hattempts
  obtain ⟨hm, hlt | ⟨hb, hlt⟩⟩ := execute_next hn h
  · exact ⟨ht', Session.stepsAfter_lt_of_budget_lt ht' hm hlt⟩
  · exact ⟨ht', Session.stepsAfter_lt_of_height_lt ht' hb hlt⟩

/-! ### One reply -/

/-- What judging a reply to a question makes of a session, and which step comes next. -/
inductive Judged (r : Rules) (n : Node) (s : Session) :
    Except Fault (Option Node) → Session → Prop
  /-- The question cannot be read. -/
  | unread (f : Fault) : Judged r n s (.error f) s
  /-- The answers that the question offers cannot be read. -/
  | failed (f : Fault) : Judged r n s (.error f) { s with waiting := none }
  | accepted {next : Option Node} {s' : Session} (hnext : next = n.after? .validAnswer)
      (hwaiting : s'.waiting = none) (hjumps : s'.jumpCounts = s.jumpCounts)
      (hcounts : s'.invalidAttempts = s.invalidAttempts.erase n.label) : Judged r n s (.ok next) s'
  | turned {m : Node} (hm : n.after? .invalidAnswer = some m) :
      Judged r n s (.ok (some m)) { s with waiting := none }
  | askedAgain (hle : r.maxInvalidAttempts = 0 ∨ s.attempts n.label + 1 ≤ r.maxInvalidAttempts) :
      Judged r n s (.ok (some n))
        { s with
          waiting := none
          invalidAttempts := s.invalidAttempts.put n.label (s.attempts n.label + 1) }
  | givenUp :
      Judged r n s (.ok none)
        { s with
          waiting := none
          invalidAttempts := s.invalidAttempts.put n.label (s.attempts n.label + 1) }

theorem judged_of_answer {next : Except Fault (Option Node)}
    (h : t.answer r n reply = (next, t')) : Judged r n t.session next t'.session := by
  rw [show next = (t.answer r n reply).1 from (congrArg (·.1) h).symm,
    show t' = (t.answer r n reply).2 from (congrArg (·.2) h).symm]
  unfold answer
  split
  · exact .unread _
  · rename_i d _
    dsimp only
    split
    · exact .failed _
    · simp only [take, modify]
      split <;> exact .accepted rfl (by simp) (by simp) (by simp)
    · simp only [refuse]
      split
      · rename_i hm
        exact .turned hm
      · split
        · rw [session_finish]
          exact .givenUp
        · rename_i hcap
          refine .askedAgain ?_
          by_cases hzero : r.maxInvalidAttempts = 0
          · exact Or.inl hzero
          · exact Or.inr (Int.not_lt.1 fun hlt => hcap ⟨hzero, hlt⟩)

theorem Judged.waiting_of_ok {s s' : Session} {next : Option Node}
    (h : Judged r n s (.ok next) s') : s'.waiting = none := by
  cases h with
  | accepted _ hwaiting _ _ => exact hwaiting
  | turned _ | askedAgain _ | givenUp => rfl

theorem Judged.isCounted {s s' : Session} {next : Except Fault (Option Node)}
    (h : Judged r n s next s') (hs : s.IsCounted) : s'.IsCounted := by
  intro question
  have hn := hs n.label
  have hq := hs question
  unfold Session.attempts at hq ⊢
  cases h with
  | unread f => exact hq
  | failed f => exact hq
  | accepted _ _ _ hcounts =>
    rw [hcounts, Assoc.get?_erase]
    split
    · exact Int.le_refl 0
    · exact hq
  | turned _ => exact hq
  | askedAgain _ | givenUp =>
    simp only [Assoc.get?_put]
    split
    · simp only [Option.getD_some]; omega
    · exact hq

/-- The step that a reply leads to has less left than the question, or is the question itself, which
bears one wrong answer less. -/
theorem Judged.stepsAfter_lt {s s' : Session} (h : Judged r n s (.ok (some m)) s')
    (hs : s.IsCounted) (hcap : 1 ≤ r.maxInvalidAttempts) :
    s'.stepsAfter w r m < s.stepsAfter w r n := by
  have hs' := h.isCounted hs
  have below {tag : NodeKind} (hm : n.after? tag = some m) (hj : s'.jumpCounts = s.jumpCounts) :
      s'.stepsAfter w r m < s.stepsAfter w r n :=
    Session.stepsAfter_lt_of_height_lt hs' (by rw [hj]) (height_lt_of_after? hm)
  cases h with
  | accepted hnext _ hjumps _ => exact below hnext.symm hjumps
  | turned hm => exact below hm rfl
  | askedAgain hle =>
    simp only [Session.stepsAfter, Session.triesLeft, Session.attempts, Assoc.get?_put_self,
      Option.getD_some]
    unfold Session.attempts at hle
    omega

/-! ### Runs and replies -/

/-- What a session has executed stays below a bound, together with what its last step leaves if that
is a question and waits. -/
structure Within (bound : Nat) (w : Workflow) (r : Rules) (s : Session) (es : List Event) : Prop where
  isCounted : s.IsCounted
  steps : (Event.steps es).length ≤ bound
  waits : ∀ q, s.waiting.isSome → (Event.steps es).getLast? = some q →
    (Event.steps es).length + s.stepsAfter w r q ≤ bound

variable {bound : Nat} {s s' : Session} {es es' : List Event}

theorem Within.congr (h : Within bound w r s es) (hs : Event.steps es' = Event.steps es) :
    Within bound w r s es' :=
  ⟨h.isCounted, hs ▸ h.steps, hs ▸ h.waits⟩

theorem Within.touch (h : Within bound w r s es) (now : Instant) :
    Within bound w r (s.touch now) es :=
  ⟨h.isCounted, h.steps, h.waits⟩

theorem Within.of_waiting_eq_none (hc : s.IsCounted) (hs : (Event.steps es).length ≤ bound)
    (hw : s.waiting = none) : Within bound w r s es :=
  ⟨hc, hs, fun q hq => by rw [hw] at hq; cases hq⟩

theorem steps_past_execute (past : List Event) (t : Turn κ) (o : Outside κ) (w : Workflow)
    (r : Rules) (n : Node) :
    Event.steps (past ++ ((t.begin n).execute o w r n).2.events) =
      Event.steps (past ++ t.events) ++ [n] := by
  have hexec : Event.steps ((t.begin n).execute o w r n).2.events = Event.steps t.events ++ [n] :=
    steps_execute_begin t o w r n
  rw [Event.steps_append, hexec, Event.steps_append, List.append_assoc]

/-- A step that has just been executed has no more left than it had before. -/
theorem within_execute (past : List Event) (t : Turn κ) (n : Node) (hc : t.session.IsCounted)
    (hwait : t.session.waiting = none)
    (hb : (Event.steps (past ++ t.events)).length + t.session.stepsAfter w r n < bound) :
    Within bound w r ((t.begin n).execute o w r n).2.session
      (past ++ ((t.begin n).execute o w r n).2.events) := by
  have hsteps := steps_past_execute past t o w r n
  refine ⟨hc.congr (invalidAttempts_execute (t.begin n) o w r n), ?_, fun q hq hlast => ?_⟩
  · rw [hsteps, List.length_append, List.length_singleton]; omega
  · rw [hsteps, List.getLast?_concat] at hlast
    cases hlast
    rw [hsteps, List.length_append, List.length_singleton]
    rcases execute_waiting_cases (o := o) (w := w) (r := r) (t.begin n) n with
      hw | ⟨-, t', m, hx, hs, -⟩
    · rw [hw.trans hwait] at hq; cases hq
    · rw [hx]
      have hsame : t'.session.stepsAfter w r n = t.session.stepsAfter w r n :=
        Session.stepsAfter_congr (by rw [hs]; rfl) (by rw [hs]; rfl) w r n
      rw [hsame]; omega

theorem within_run (past : List Event) (t : Turn κ) (n : Node) (hn : n ∈ w.root.preorder)
    (hc : t.session.IsCounted) (hwait : t.session.waiting = none)
    (hb : (Event.steps (past ++ t.events)).length + t.session.stepsAfter w r n < bound) :
    Within bound w r (t.run o w r n hn).session (past ++ (t.run o w r n hn).events) := by
  fun_induction Turn.run t o w r n hn with
  | case1 t n hn f t' h =>
    have hw := within_execute (o := o) past t n hc hwait hb
    rw [h] at hw
    refine hw.congr ?_
    rw [Event.steps_append, Event.steps_append]
    exact congrArg (_ ++ ·) (steps_fail ..)
  | case2 t n hn t' h =>
    have hw := within_execute (o := o) past t n hc hwait hb
    rwa [h] at hw
  | case3 t n hn m t' h ih =>
    obtain ⟨hc', hlt⟩ := stepsAfter_of_next (t := t.begin n) hc hn h
    have hsteps := steps_past_execute past t o w r n
    rw [h] at hsteps
    refine ih hc' ?_ ?_
    · -- A question that was asked has no next step, so the pointer is still clear.
      rcases execute_waiting_cases (o := o) (w := w) (r := r) (t.begin n) n with
        hw | ⟨-, _, _, hx, -⟩
      · rw [h] at hw; exact hw.trans hwait
      · rw [h] at hx; cases hx
    · have hlt' : t'.session.stepsAfter w r m < t.session.stepsAfter w r n := hlt
      rw [hsteps, List.length_append, List.length_singleton]
      omega

theorem within_runFrom (past : List Event) (t : Turn κ) (next : Option Node)
    (hn : ∀ n, next = some n → n ∈ w.root.preorder) (hc : t.session.IsCounted)
    (hwait : t.session.waiting = none) (hsteps : (Event.steps (past ++ t.events)).length ≤ bound)
    (hb : ∀ n, next = some n →
      (Event.steps (past ++ t.events)).length + t.session.stepsAfter w r n < bound) :
    Within bound w r (t.runFrom o w r next hn).session (past ++ (t.runFrom o w r next hn).events) := by
  cases next with
  | none => exact .of_waiting_eq_none hc hsteps hwait
  | some n => exact within_run past t n (hn n rfl) hc hwait (hb n rfl)

theorem within_judge (past : List Event) (t : Turn κ) (q : Node) (hq : q ∈ w.root.preorder)
    (reply : String) (hcap : 1 ≤ r.maxInvalidAttempts) (hwait : t.session.waiting.isSome)
    (hlast : (Event.steps (past ++ t.events)).getLast? = some q)
    (ht : Within bound w r t.session (past ++ t.events)) :
    Within bound w r (t.judge o w r q hq reply).session
      (past ++ (t.judge o w r q hq reply).events) := by
  have hanswer := (work_answer t o r q reply).steps_eq
  match h : t.answer r q reply with
  | (.error f, t') =>
    have hj := judged_of_answer h
    rw [h] at hanswer
    have hfail : Event.steps (past ++ (t'.fail ("Error processing answer to " ++ q.label) f).events) =
        Event.steps (past ++ t.events) := by
      rw [Event.steps_append, Event.steps_append]
      exact congrArg (_ ++ ·) ((steps_fail ..).trans hanswer)
    rw [judge_of_error hq h]
    generalize hs' : t'.session = s' at hj
    cases hj with
    | unread => exact (hs' ▸ ht).congr hfail
    | failed => exact .of_waiting_eq_none (hs' ▸ ht.isCounted) (hfail ▸ ht.steps) (hs' ▸ rfl)
  | (.ok none, t') =>
    have hj := judged_of_answer h
    rw [h] at hanswer
    rw [judge_of_none hq h]
    refine .of_waiting_eq_none (hj.isCounted ht.isCounted) ?_ hj.waiting_of_ok
    rw [Event.steps_append, show Event.steps t'.events = _ from hanswer]
    exact Event.steps_append past t.events ▸ ht.steps
  | (.ok (some m), t') =>
    have hj := judged_of_answer h
    rw [h] at hanswer
    rw [judge_of_some hq h]
    refine within_run past t' m _ (hj.isCounted ht.isCounted) hj.waiting_of_ok ?_
    have hleft := hj.stepsAfter_lt (w := w) ht.isCounted hcap
    have hbound := ht.waits q hwait hlast
    rw [Event.steps_append, show Event.steps t'.events = _ from hanswer]
    rw [Event.steps_append] at hbound
    exact Nat.lt_of_lt_of_le (Nat.add_lt_add_left hleft _) hbound

end Turn

end ChatFlow
