import ChatFlow.Turn.Action
import ChatFlow.Turn.Branch
import ChatFlow.Turn.Jump
import ChatFlow.Turn.Request

/-!
# Running steps

`Turn.execute` runs one step, `Turn.run` one step after the other until the conversation waits, has
nothing left to do, or a step fails. Every run ends although jumps may lead back: each step either
goes down the tree or takes a jump from what is left of the budget (`Turn.execute_next`).
-/

namespace ChatFlow.Turn

variable {κ : Type}

/-- Run a step. What has no rule of its own goes on to its first child. -/
def execute (t : Turn κ) (o : Outside κ) (w : Workflow) (r : Rules) (n : Node) : Progress κ :=
  match n.kind with
  | .question => t.ask o r n
  | .branch => t.branch n
  | .action => t.act o n
  | .httpRequest => t.request o n
  | .dateTime => (.ok (n.after? .validDateTime), t)
  | .assignTo => (.ok (n.after? .validAssignTo), t.say .info
      ("[Bot] Assigning conversation to workspace (step " ++ n.label ++ ", data=" ++
        (Json.obj n.data).display ++ ")"))
  | .jump => t.jump w r n
  | _ => (.ok n.firstChild?, t)

theorem height_lt_of_after? {n m : Node} {tag : NodeKind} (h : n.after? tag = some m) :
    m.height < n.height := by
  obtain ⟨c, hc, hm⟩ := Option.bind_eq_some_iff.mp h
  exact Nat.lt_trans (Node.height_lt_of_child (Node.mem_children_of_firstChild? hm))
    (Node.height_lt_of_child (Node.mem_children_of_outcome? hc))

theorem mem_preorder_of_after? {n m : Node} {tag : NodeKind} (h : n.after? tag = some m) :
    m ∈ n.preorder := by
  obtain ⟨c, hc, hm⟩ := Option.bind_eq_some_iff.mp h
  exact Node.mem_preorder_of_child (Node.mem_children_of_outcome? hc)
    (Node.mem_preorder_of_child (Node.mem_children_of_firstChild? hm) m.mem_preorder_self)

/-- The step after one that is no jump stands below it, and no jump has been counted. -/
theorem execute_next_of_ne_jump {t t' : Turn κ} {o : Outside κ} {w : Workflow} {r : Rules}
    {n m : Node} (hk : n.kind ≠ .jump) (h : t.execute o w r n = (.ok (some m), t')) :
    m ∈ n.preorder ∧ m.height < n.height ∧ t'.session.jumpCounts = t.session.jumpCounts := by
  have child (h : n.firstChild? = some m) : m ∈ n.preorder ∧ m.height < n.height :=
    have hm := Node.mem_children_of_firstChild? h
    ⟨Node.mem_preorder_of_child hm m.mem_preorder_self, Node.height_lt_of_child hm⟩
  have below {tag : NodeKind} (h : n.after? tag = some m) : m ∈ n.preorder ∧ m.height < n.height :=
    ⟨mem_preorder_of_after? h, height_lt_of_after? h⟩
  simp only [execute] at h
  split at h
  · exact absurd h ask_next
  · have hb := congrArg (·.1) h
    obtain ⟨c, hc, hm⟩ := chooseBranch_next (by simpa [branch] using hb)
    have hmem := Node.mem_children_of_firstChild? hm
    refine ⟨Node.mem_preorder_of_child hc (Node.mem_preorder_of_child hmem m.mem_preorder_self),
      Nat.lt_trans (Node.height_lt_of_child hmem) (Node.height_lt_of_child hc), ?_⟩
    have ht := congrArg (·.2.session.jumpCounts) h
    simpa [branch] using ht.symm
  · obtain ⟨h₁, h₂⟩ := child (act_next h)
    have ht := congrArg (·.2.session.jumpCounts) h
    exact ⟨h₁, h₂, by simpa using ht.symm⟩
  · obtain ⟨h₁, h₂⟩ := (request_next h).elim below below
    have ht := congrArg (·.2.session.jumpCounts) h
    exact ⟨h₁, h₂, by simpa using ht.symm⟩
  · simp only [Prod.mk.injEq, Except.ok.injEq] at h
    obtain ⟨h₁, h₂⟩ := below h.1
    exact ⟨h₁, h₂, by rw [← h.2]⟩
  · simp only [Prod.mk.injEq, Except.ok.injEq] at h
    obtain ⟨h₁, h₂⟩ := below h.1
    exact ⟨h₁, h₂, by rw [← h.2]; rfl⟩
  · exact absurd ‹_› hk
  · simp only [Prod.mk.injEq, Except.ok.injEq] at h
    obtain ⟨h₁, h₂⟩ := child h.1
    exact ⟨h₁, h₂, by rw [← h.2]⟩

/-- The step that comes next is one of the workflow, and nearer to the end: jumps have less left
than before, or just as much and the step stands further down. -/
theorem execute_next {t t' : Turn κ} {o : Outside κ} {w : Workflow} {r : Rules} {n m : Node}
    (hn : n ∈ w.root.preorder) (h : t.execute o w r n = (.ok (some m), t')) :
    m ∈ w.root.preorder ∧
      (w.budget r t'.session.jumpCounts < w.budget r t.session.jumpCounts ∨
        w.budget r t'.session.jumpCounts = w.budget r t.session.jumpCounts ∧
          m.height < n.height) := by
  by_cases hk : n.kind = .jump
  · rw [execute, hk] at h
    obtain ⟨hm, limit, hlimit, hle, hcounts⟩ := jump_next hk h
    refine ⟨hm, Or.inl ?_⟩
    rw [hcounts]
    exact Workflow.budget_put_lt (Workflow.mem_jumps hn hlimit) hle
  · obtain ⟨hm, hlt, hcounts⟩ := execute_next_of_ne_jump hk h
    exact ⟨Node.mem_preorder_trans hn hm, Or.inr ⟨by rw [hcounts], hlt⟩⟩

def begin (t : Turn κ) (n : Node) : Turn κ :=
  (t.record (.begun n)).say .debug ("Executing " ++ n.kind.name ++ " (" ++ n.label ++ ")")

/-- Run a step of a workflow and those that follow it. -/
def run (t : Turn κ) (o : Outside κ) (w : Workflow) (r : Rules) (n : Node)
    (hn : n ∈ w.root.preorder) : Turn κ :=
  match h : (t.begin n).execute o w r n with
  | (.error f, t') => t'.fail ("Error executing " ++ n.kind.name ++ " (" ++ n.label ++ ")") f
  | (.ok none, t') => t'
  | (.ok (some m), t') => run t' o w r m (execute_next hn h).1
termination_by (w.budget r t.session.jumpCounts, n.height)
decreasing_by
  rcases (execute_next hn h).2 with hlt | ⟨heq, hlt⟩
  · exact Prod.Lex.left _ _ hlt
  · have heq' : w.budget r t'.session.jumpCounts = w.budget r t.session.jumpCounts := heq
    rw [heq']; exact Prod.Lex.right _ hlt

theorem run_of_error {t t' : Turn κ} {o : Outside κ} {w : Workflow} {r : Rules} {n : Node} {f : Fault}
    (hn : n ∈ w.root.preorder) (h : (t.begin n).execute o w r n = (.error f, t')) :
    t.run o w r n hn = t'.fail ("Error executing " ++ n.kind.name ++ " (" ++ n.label ++ ")") f := by
  rw [run]; split <;> simp_all

theorem run_of_none {t t' : Turn κ} {o : Outside κ} {w : Workflow} {r : Rules} {n : Node}
    (hn : n ∈ w.root.preorder) (h : (t.begin n).execute o w r n = (.ok none, t')) :
    t.run o w r n hn = t' := by
  rw [run]; split <;> simp_all

theorem run_of_some {t t' : Turn κ} {o : Outside κ} {w : Workflow} {r : Rules} {n m : Node}
    (hn : n ∈ w.root.preorder) (h : (t.begin n).execute o w r n = (.ok (some m), t')) :
    t.run o w r n hn = t'.run o w r m (execute_next hn h).1 := by
  rw [run]; split <;> rename_i heq <;> rw [h] at heq <;> cases heq
  rfl

/-- Run what comes next, if anything does. -/
def runFrom (t : Turn κ) (o : Outside κ) (w : Workflow) (r : Rules) (next : Option Node)
    (h : ∀ n, next = some n → n ∈ w.root.preorder) : Turn κ :=
  match next, h with
  | some n, h => t.run o w r n (h n rfl)
  | none, _ => t

/-- A step that an answer leads to is one of the workflow. -/
theorem mem_of_answer {t t' : Turn κ} {w : Workflow} {r : Rules} {n m : Node} {reply : String}
    (hn : n ∈ w.root.preorder) (h : t.answer r n reply = (.ok (some m), t')) :
    m ∈ w.root.preorder := by
  rcases answer_next h with rfl | h | h
  · exact hn
  · exact Node.mem_preorder_trans hn (mem_preorder_of_after? h)
  · exact Node.mem_preorder_trans hn (mem_preorder_of_after? h)

/-- Judge the answer to a question of a workflow, and go on from there. -/
def judge (t : Turn κ) (o : Outside κ) (w : Workflow) (r : Rules) (n : Node)
    (hn : n ∈ w.root.preorder) (reply : String) : Turn κ :=
  match h : t.answer r n reply with
  | (.error f, t') => t'.fail ("Error processing answer to " ++ n.label) f
  | (.ok none, t') => t'
  | (.ok (some m), t') => t'.run o w r m (mem_of_answer hn h)

theorem judge_of_error {t t' : Turn κ} {o : Outside κ} {w : Workflow} {r : Rules} {n : Node}
    {reply : String} {f : Fault} (hn : n ∈ w.root.preorder)
    (h : t.answer r n reply = (.error f, t')) :
    t.judge o w r n hn reply = t'.fail ("Error processing answer to " ++ n.label) f := by
  unfold judge; split <;> simp_all

theorem judge_of_none {t t' : Turn κ} {o : Outside κ} {w : Workflow} {r : Rules} {n : Node}
    {reply : String} (hn : n ∈ w.root.preorder) (h : t.answer r n reply = (.ok none, t')) :
    t.judge o w r n hn reply = t' := by
  unfold judge; split <;> simp_all

theorem judge_of_some {t t' : Turn κ} {o : Outside κ} {w : Workflow} {r : Rules} {n m : Node}
    {reply : String} (hn : n ∈ w.root.preorder) (h : t.answer r n reply = (.ok (some m), t')) :
    t.judge o w r n hn reply = t'.run o w r m (mem_of_answer hn h) := by
  unfold judge; split <;> rename_i heq <;> rw [h] at heq <;> cases heq
  rfl

/-- The question that the conversation waits on is unknown: the conversation is ended, so that the
next message starts it anew. -/
def lose (t : Turn κ) : Turn κ :=
  (t.say .warning ("Waiting on unknown question " ++ Text.quotedOption t.session.waiting ++
    ", ending session")).finish

/-- Answer the question that the conversation waits on, and go on from there. -/
def resume (t : Turn κ) (o : Outside κ) (w : Workflow) (r : Rules) (reply : String) : Turn κ :=
  match h : w.question? t.session.waiting with
  | some n => t.judge o w r n (Workflow.mem_of_question? h) reply
  | none => t.lose

theorem resume_of_some {t : Turn κ} {o : Outside κ} {w : Workflow} {r : Rules} {reply : String}
    {n : Node} (h : w.question? t.session.waiting = some n) :
    t.resume o w r reply = t.judge o w r n (Workflow.mem_of_question? h) reply := by
  unfold resume; split <;> rename_i heq <;> rw [h] at heq <;> cases heq
  rfl

theorem resume_of_none {t : Turn κ} {o : Outside κ} {w : Workflow} {r : Rules} {reply : String}
    (h : w.question? t.session.waiting = none) : t.resume o w r reply = t.lose := by
  unfold resume; split <;> simp_all

end ChatFlow.Turn
