import ChatFlow.Proofs.Bot.Answerable
import ChatFlow.Proofs.Turn.Jumping
import Mathlib.Data.List.Nodup

/-!
# Steps that lead on

`Node.leadsOn` can be checked without running anything: whatever a step comes to, another one stands
after it, or the step asks a question that judges replies, or it ends the conversation. If all steps of
a workflow are like this and all messages are accepted, a run can only stop short at a jump that was
taken as often as it may be. `Session.Settled` is what a run then leaves of a session that goes on
(`settles_run`, `settles_judge`): a question waits, and no jump is used up, or no question waits, and
one is.
-/

namespace ChatFlow

open Step (QuestionData Conditions Action Jump)

/-! ### The check -/

/-- Whether one of some branches is taken, whatever the variables are, and leads on. -/
def choosesBranch : List Node → Bool
  | [] => false
  | c :: cs => match c.kind with
    | .ifCondition => (c.read Conditions.decode).isOk && c.firstChild?.isSome && choosesBranch cs
    | .elseCondition => c.firstChild?.isSome
    | _ => choosesBranch cs

namespace Node

/-- Whether a question can be waited on, judges replies, and is followed by a step if it is answered. -/
def leadsOnAsQuestion (n : Node) : Bool :=
  match n.read QuestionData.decode with
  | .ok d => n.id.any (! ·.isEmpty) && (d.question.accepts "").isOk && (n.after? .validAnswer).isSome
  | .error _ => false

/-- Whether a jump has a target. -/
def leadsOnAsJump (n : Node) (w : Workflow) : Bool :=
  match n.read Jump.decode with
  | .ok j => (w.lookup? j.target).isSome
  | .error _ => false

/-- Whether a step leads on to another one, to an answer or to the end of the conversation. -/
def leadsOn (w : Workflow) (n : Node) : Bool :=
  match n.kind with
  | .question => n.leadsOnAsQuestion
  | .branch => choosesBranch n.children
  | .action => (n.read Action.decode).isOk
  | .httpRequest => (n.after? .validAnswer).isSome && (n.after? .invalidAnswer).isSome
  | .dateTime => (n.after? .validDateTime).isSome
  | .assignTo => (n.after? .validAssignTo).isSome
  | .jump => n.leadsOnAsJump w
  | _ => n.firstChild?.isSome

end Node

/-- All steps of a workflow lead on, from the first one on, and each jump is counted for itself. -/
structure Workflow.LeadsOn (w : Workflow) (r : Rules) : Prop where
  entry : w.entry?.isSome
  nodes : ∀ n ∈ w.root.preorder, n.leadsOn w
  jumps : ((w.jumps r).map (·.1)).Nodup

/-- Every message is accepted. -/
def Outside.AcceptsAll {κ : Type} (o : Outside κ) : Prop := ∀ k m, (o.send k m).1 = .ok ()

/-! ### What a run leaves -/

namespace Session

/-- No jump was taken more often than it may be. -/
def IsWithin (s : Session) (w : Workflow) (r : Rules) : Prop :=
  ∀ e ∈ w.jumps r, 0 ≤ s.jumps e.1 ∧ s.jumps e.1 ≤ max e.2 0

/-- A session waits on a question of the workflow, and no jump is used up; or it waits on nothing, and
one jump was taken once more than it may be. -/
inductive Settled (s : Session) (w : Workflow) (r : Rules) : Prop
  | waits (q : Node) (mem : q ∈ w.root.preorder) (kind : q.kind = .question)
      (id : s.waiting = q.id) (within : s.IsWithin w r)
  | stuck (e : String × Int) (mem : e ∈ w.jumps r) (waiting : s.waiting = none)
      (used : s.jumps e.1 = max e.2 0 + 1)

variable {s s' : Session} {w : Workflow} {r : Rules}

theorem IsWithin.congr (h : s.IsWithin w r) (hj : s'.jumpCounts = s.jumpCounts) :
    s'.IsWithin w r := by
  intro e he
  rw [jumps, hj]
  exact h e he

theorem Settled.congr (h : s.Settled w r) (hw : s'.waiting = s.waiting)
    (hj : s'.jumpCounts = s.jumpCounts) : s'.Settled w r := by
  cases h with
  | waits q mem kind id within => exact .waits q mem kind (hw.trans id) (within.congr hj)
  | stuck e mem waiting used =>
    refine .stuck e mem (hw.trans waiting) ?_
    rw [jumps, hj]
    exact used

theorem isWithin_start (now : Instant) (id name : String) : (start now id name).IsWithin w r := by
  intro e _
  have hzero : (start now id name).jumps e.1 = 0 := rfl
  rw [hzero]
  omega

end Session

namespace Turn

variable {κ : Type} {o : Outside κ} {w : Workflow} {r : Rules} {t t' : Turn κ} {n m : Node}

/-- The conversation goes on to another step: nothing waits, and no jump is used up. -/
structure Going (w : Workflow) (r : Rules) (t : Turn κ) : Prop where
  waiting : t.session.waiting = none
  within : t.session.IsWithin w r

/-- The conversation is over, or its session is settled. -/
def Settles (w : Workflow) (r : Rules) (t : Turn κ) : Prop :=
  t.isLive = true → t.session.Settled w r

/-! ### One step -/

theorem exists_chooseBranch {cs : List Node} (h : choosesBranch cs) (vars : Assoc String) :
    ∃ m, (chooseBranch vars cs).1 = .ok (some m) := by
  induction cs with
  | nil => cases h
  | cons c cs ih =>
    by_cases hif : c.kind = .ifCondition
    · simp only [choosesBranch, hif, Bool.and_eq_true] at h
      obtain ⟨⟨hread, hchild⟩, hrest⟩ := h
      obtain ⟨m, hm⟩ := Option.isSome_iff_exists.1 hchild
      simp only [chooseBranch, hif]
      cases hguard : c.read Conditions.decode with
      | error f => rw [hguard] at hread; cases hread
      | ok guard =>
        dsimp only
        split
        · exact ⟨m, by rw [hm]⟩
        · exact ih hrest
    · by_cases helse : c.kind = .elseCondition
      · simp only [choosesBranch, helse] at h
        obtain ⟨m, hm⟩ := Option.isSome_iff_exists.1 h
        simp only [chooseBranch, helse]
        exact ⟨m, by rw [hm]⟩
      · have hskip : choosesBranch (c :: cs) = choosesBranch cs := by
          rw [choosesBranch]
          split <;> simp_all
        have hskip' : chooseBranch vars (c :: cs) = chooseBranch vars cs := by
          rw [chooseBranch]
          split <;> simp_all
        rw [hskip']
        exact ih (hskip ▸ h)

theorem send_of_acceptsAll (ho : o.AcceptsAll) (t : Turn κ) (c : Content) :
    (t.send o c).1 = .ok () := by
  have hsent := ho t.world ⟨t.session.id, c⟩
  unfold send
  dsimp only
  split
  · rfl
  · rename_i heq
    rw [heq] at hsent
    cases hsent

theorem sendItems_of_acceptsAll (ho : o.AcceptsAll) (t : Turn κ) (is : List Step.ActionItem) :
    (sendItems o t is).1 = .ok () := by
  induction is generalizing t with
  | nil => rfl
  | cons i is ih =>
    rw [sendItems]
    split
    · exact ih t
    · rename_i text _
      have hsent := send_of_acceptsAll ho t (.text (t.session.fill text))
      split <;> rename_i heq
      · exact ih _
      · rw [heq] at hsent
        cases hsent

theorem perform_of_acceptsAll (ho : o.AcceptsAll) (t : Turn κ) (a : Action) :
    (t.perform o a).1 = .ok () := by
  unfold perform
  split
  · exact sendItems_of_acceptsAll ho t a.items
  · rfl
  · rfl

theorem act_of_acceptsAll (ho : o.AcceptsAll) (hread : (n.read Action.decode).isOk) (t : Turn κ) :
    (∃ m, (t.act o n).1 = .ok (some m)) ∨
      (t.act o n).1 = .ok none ∧ (t.act o n).2.isLive = false := by
  cases ha : n.read Action.decode with
  | error f => rw [ha] at hread; cases hread
  | ok a =>
    have hp := perform_of_acceptsAll ho t a
    simp only [act, ha]
    split <;> rename_i heq <;> rw [heq] at hp
    · cases hp
    · cases n.firstChild? with
      | some m => exact Or.inl ⟨m, rfl⟩
      | none => exact Or.inr ⟨rfl, isLive_finish _⟩

theorem request_cases (t : Turn κ) (o : Outside κ) (n : Node) :
    (t.request o n).1 = .ok (n.after? .validAnswer) ∨
      (t.request o n).1 = .ok (n.after? .invalidAnswer) := by
  simp only [request]
  split
  · exact Or.inr rfl
  · split
    · exact Or.inr rfl
    · exact Or.inl rfl

/-- A step that leads on and is neither a question nor a jump goes on to another step, or ends the
conversation. -/
theorem execute_of_leadsOn (ho : o.AcceptsAll) (h : n.leadsOn w) (hq : n.kind ≠ .question)
    (hj : n.kind ≠ .jump) (t : Turn κ) (r : Rules) :
    (∃ m, (t.execute o w r n).1 = .ok (some m)) ∨
      (t.execute o w r n).1 = .ok none ∧ (t.execute o w r n).2.isLive = false := by
  have isSome {next : Option Node} (hnext : next.isSome) :
      ∃ m, (.ok next : Except Fault (Option Node)) = .ok (some m) := by
    obtain ⟨m, hm⟩ := Option.isSome_iff_exists.1 hnext
    exact ⟨m, by rw [hm]⟩
  unfold Node.leadsOn at h
  unfold execute
  cases hk : n.kind <;> rw [hk] at h <;> dsimp only at h ⊢
  case question => exact absurd hk hq
  case jump => exact absurd hk hj
  case branch => exact Or.inl (exists_chooseBranch h t.session.vars)
  case action => exact act_of_acceptsAll ho h t
  case httpRequest =>
    simp only [Bool.and_eq_true] at h
    rcases request_cases t o n with hx | hx <;> rw [hx]
    · exact Or.inl (isSome h.1)
    · exact Or.inl (isSome h.2)
  all_goals exact Or.inl (isSome h)

theorem exists_question (h : n.leadsOn w) (hk : n.kind = .question) :
    ∃ d id m, n.read QuestionData.decode = .ok d ∧ n.id = some id ∧ id ≠ "" ∧
      n.after? .validAnswer = some m ∧ ∀ reply, ∃ v, d.question.accepts reply = .ok v := by
  rw [Node.leadsOn, hk] at h
  simp only [Node.leadsOnAsQuestion] at h
  split at h
  · rename_i d hd
    simp only [Bool.and_eq_true, Option.any_eq_true, Bool.not_eq_true',
      String.isEmpty_eq_false_iff] at h
    obtain ⟨⟨⟨id, hid, hne⟩, haccepts⟩, hnext⟩ := h
    obtain ⟨m, hm⟩ := Option.isSome_iff_exists.1 hnext
    refine ⟨d, id, m, hd, hid, hne, hm, fun reply => ?_⟩
    cases hv : d.question.accepts reply with
    | ok v => exact ⟨v, rfl⟩
    | error f =>
      rw [Step.Question.accepts_eq_error_iff.2 (Step.Question.accepts_eq_error_iff.1 hv)] at haccepts
      cases haccepts
  · cases h

theorem ask_of_leadsOn (ho : o.AcceptsAll) (h : n.leadsOn w) (hk : n.kind = .question) (t : Turn κ)
    (r : Rules) : (t.ask o r n).1 = .ok none ∧
      (t.ask o r n).2.session = { t.session with waiting := n.id } := by
  obtain ⟨d, id, m, hd, -⟩ := exists_question h hk
  have hsent := send_of_acceptsAll ho t (r.prompt d.question (t.session.fill d.question.text))
  have hs := session_send t o (r.prompt d.question (t.session.fill d.question.text))
  simp only [ask, hd]
  split <;> rename_i heq <;> rw [heq] at hsent hs
  · cases hsent
  · exact ⟨rfl, congrArg (fun s => { s with waiting := n.id }) hs⟩

/-- A jump that leads on goes on to its target, or is used up by now. -/
theorem jump_of_leadsOn (hjumps : ((w.jumps r).map (·.1)).Nodup) (h : n.leadsOn w)
    (hn : n ∈ w.root.preorder) (hk : n.kind = .jump) (ht : Going w r t) :
    (∃ m, (t.jump w r n).1 = .ok (some m) ∧ Going w r (t.jump w r n).2) ∨
      (t.jump w r n).1 = .ok none ∧ (t.jump w r n).2.session.Settled w r := by
  rw [Node.leadsOn, hk] at h
  simp only [Node.leadsOnAsJump] at h
  split at h
  · rename_i j hj
    obtain ⟨m, hm⟩ := Option.isSome_iff_exists.1 h
    obtain ⟨hnext, hsession⟩ := jump_of_read hj t w r
    have hmem : (n.label, j.limit r.maxJumps) ∈ w.jumps r :=
      Workflow.mem_jumps hn (by simp [Node.jumpLimit?, hk, hj])
    obtain ⟨hnonneg, hmost⟩ : 0 ≤ t.session.jumps n.label ∧
        t.session.jumps n.label ≤ max (j.limit r.maxJumps) 0 := ht.within _ hmem
    have hcount (key : String) : (t.jump w r n).2.session.jumps key =
        if n.label = key then t.session.jumps n.label + 1 else t.session.jumps key := by
      rw [Session.jumps, hsession, Assoc.get?_put]
      split <;> rfl
    by_cases hle : t.session.jumps n.label + 1 ≤ j.limit r.maxJumps
    · refine Or.inl ⟨m, by rw [hnext, if_pos hle, hm], ?_, fun e he => ?_⟩
      · rw [hsession]
        exact ht.waiting
      · rw [hcount]
        by_cases hkey : n.label = e.1
        · -- Only this jump is counted under its key, so the limit is its own.
          have hlimit : e = (n.label, j.limit r.maxJumps) :=
            List.inj_on_of_nodup_map hjumps he hmem hkey.symm
          rw [if_pos hkey, hlimit]
          show 0 ≤ t.session.jumps n.label + 1 ∧ _ ≤ max (j.limit r.maxJumps) 0
          omega
        · rw [if_neg hkey]
          exact ht.within e he
    · refine Or.inr ⟨by rw [hnext, if_neg hle], .stuck _ hmem ?_ ?_⟩
      · rw [hsession]
        exact ht.waiting
      · rw [hcount, if_pos rfl]
        show _ = max (j.limit r.maxJumps) 0 + 1
        omega
  · cases h

/-- One step of a conversation that goes on: it goes on still, or is settled now. -/
theorem execute_settles (hw : w.LeadsOn r) (ho : o.AcceptsAll) (hn : n ∈ w.root.preorder)
    (ht : Going w r t) :
    (∃ m, (t.execute o w r n).1 = .ok (some m) ∧ Going w r (t.execute o w r n).2) ∨
      (t.execute o w r n).1 = .ok none ∧ Settles w r (t.execute o w r n).2 := by
  have h := hw.nodes n hn
  by_cases hq : n.kind = .question
  · obtain ⟨hnext, hsession⟩ := ask_of_leadsOn ho h hq t r
    have hx : t.execute o w r n = t.ask o r n := by rw [execute, hq]
    rw [hx]
    refine Or.inr ⟨hnext, fun _ => .waits n hn hq ?_ ?_⟩
    · rw [hsession]
    · exact ht.within.congr (by rw [hsession])
  · by_cases hj : n.kind = .jump
    · have hx : t.execute o w r n = t.jump w r n := by rw [execute, hj]
      rw [hx]
      exact (jump_of_leadsOn hw.jumps h hn hj ht).imp_right fun hs => ⟨hs.1, fun _ => hs.2⟩
    · rcases execute_of_leadsOn ho h hq hj t r with ⟨m, hm⟩ | ⟨hnone, hlive⟩
      · refine Or.inl ⟨m, hm, ?_, ?_⟩
        · exact (waiting_execute_of_ne hq t o w r).trans ht.waiting
        · exact ht.within.congr (jumpCounts_execute_of_ne hj t o w r)
      · exact Or.inr ⟨hnone, fun hlive' => by rw [hlive] at hlive'; cases hlive'⟩

/-! ### Runs -/

theorem settles_run (hw : w.LeadsOn r) (ho : o.AcceptsAll) (t : Turn κ) (n : Node)
    (hn : n ∈ w.root.preorder) (ht : Going w r t) : Settles w r (t.run o w r n hn) := by
  fun_induction Turn.run t o w r n hn with
  | case1 t n hn f t' h =>
    rcases execute_settles hw ho hn (t := t.begin n) ⟨ht.waiting, ht.within⟩ with
      ⟨m, hm, -⟩ | ⟨hnone, -⟩
    · rw [h] at hm; cases hm
    · rw [h] at hnone; cases hnone
  | case2 t n hn t' h =>
    rcases execute_settles hw ho hn (t := t.begin n) ⟨ht.waiting, ht.within⟩ with
      ⟨m, hm, -⟩ | ⟨-, hs⟩
    · rw [h] at hm; cases hm
    · rwa [h] at hs
  | case3 t n hn t' m h ih =>
    rcases execute_settles hw ho hn (t := t.begin n) ⟨ht.waiting, ht.within⟩ with
      ⟨m', -, hg⟩ | ⟨hnone, -⟩
    · rw [h] at hg; exact ih hg
    · rw [h] at hnone; cases hnone

theorem settles_runFrom (hw : w.LeadsOn r) (ho : o.AcceptsAll) (t : Turn κ) (next : Option Node)
    (hn : ∀ n, next = some n → n ∈ w.root.preorder) (hnext : next.isSome) (ht : Going w r t) :
    Settles w r (t.runFrom o w r next hn) := by
  cases next with
  | none => cases hnext
  | some n => exact settles_run hw ho t n _ ht

theorem answer_of_leadsOn (h : n.leadsOn w) (hk : n.kind = .question) (t : Turn κ) (r : Rules)
    (reply : String) :
    (∃ m, (t.answer r n reply).1 = .ok (some m)) ∨
      (t.answer r n reply).1 = .ok none ∧ (t.answer r n reply).2.isLive = false := by
  obtain ⟨d, id, m, hd, -, -, hm, haccepts⟩ := exists_question h hk
  obtain ⟨v, hv⟩ := haccepts reply
  rw [answer_of_accepts hd hv]
  cases v with
  | true => exact Or.inl ⟨m, congrArg Except.ok hm⟩
  | false =>
    rw [if_neg Bool.false_ne_true]
    simp only [refuse]
    split
    · exact Or.inl ⟨_, rfl⟩
    · split
      · exact Or.inr ⟨rfl, isLive_finish _⟩
      · exact Or.inl ⟨_, rfl⟩

theorem settles_judge (hw : w.LeadsOn r) (ho : o.AcceptsAll) (t : Turn κ) (n : Node)
    (hn : n ∈ w.root.preorder) (hk : n.kind = .question) (reply : String)
    (ht : t.session.IsWithin w r) : Settles w r (t.judge o w r n hn reply) := by
  have hjumps := jumpCounts_answer t r n reply
  have hwait := t.answer_cases r n reply
  rcases answer_of_leadsOn (hw.nodes n hn) hk t r reply with ⟨m, hm⟩ | ⟨hnone, hlive⟩
  · have ha : t.answer r n reply = (.ok (some m), (t.answer r n reply).2) := Prod.ext hm rfl
    rw [judge_of_some hn ha]
    refine settles_run hw ho _ m _ ⟨?_, ht.congr hjumps⟩
    rcases hwait with ⟨f, hf⟩ | hwait
    · rw [hf] at hm; cases hm
    · exact hwait
  · have ha : t.answer r n reply = (.ok none, (t.answer r n reply).2) := Prod.ext hnone rfl
    rw [judge_of_none hn ha]
    intro hlive'
    rw [hlive] at hlive'
    cases hlive'

end Turn

end ChatFlow
