import ChatFlow.Proofs.Turn.Length

/-!
# What a step does to the session

A step changes one thing in the session at most, and its kind tells which (`Turn.Touches`): a question
waits, a request keeps a reply, a jump is counted. Whatever else is to be known of a session after a
step is read off these cases, and what every step keeps is the same however far a turn has come
(`iterate_pass_keeps`).
-/

namespace ChatFlow.Turn

open Step (Request)

variable {κ : Type} {o : Outside κ} {w : Workflow} {r : Rules}

/-- `s'` is what a step may make of a session `s`. -/
inductive Touches (n : Node) (s : Session) : Session → Prop
  | nothing : Touches n s s
  | waiting (hk : n.kind = .question) : Touches n s { s with waiting := n.id }
  | vars (q : Request) (content : Json) (hk : n.kind = .httpRequest)
      (hq : n.read Request.decode = .ok q) : Touches n s (s.keepReply q content)
  | jumpCounts (count : Int) (hk : n.kind = .jump) :
      Touches n s { s with jumpCounts := s.jumpCounts.put n.label count }

namespace Touches

variable {n : Node} {s s' : Session}

theorem invalidAttempts (h : Touches n s s') : s'.invalidAttempts = s.invalidAttempts := by
  cases h with
  | vars q content => rw [Session.keepReply_eq]
  | _ => rfl

theorem lastActivity (h : Touches n s s') : s'.lastActivity = s.lastActivity := by
  cases h with
  | vars q content => rw [Session.keepReply_eq]
  | _ => rfl

theorem waiting_of_ne (h : Touches n s s') (hk : n.kind ≠ .question) : s'.waiting = s.waiting := by
  cases h with
  | waiting hk' => exact absurd hk' hk
  | vars q content => exact Session.waiting_keepReply ..
  | _ => rfl

theorem jumpCounts_of_ne (h : Touches n s s') (hk : n.kind ≠ .jump) :
    s'.jumpCounts = s.jumpCounts := by
  cases h with
  | vars q content => exact Session.jumpCounts_keepReply ..
  | jumpCounts count hk' => exact absurd hk' hk
  | _ => rfl

end Touches

/-! ### Steps -/

theorem touches_ask {n : Node} (hk : n.kind = .question) (t : Turn κ) (o : Outside κ) (r : Rules) :
    Touches n t.session (t.ask o r n).2.session := by
  unfold ask
  split
  · exact .nothing
  · rename_i d _
    have hs := session_send t o (r.prompt d.question (t.session.fill d.question.text))
    split <;> rename_i u heq <;> rw [heq] at hs <;> change u.session = t.session at hs
    · rw [hs]; exact .nothing
    · show Touches n t.session { u.session with waiting := n.id }
      rw [hs]; exact .waiting hk

theorem touches_request {n : Node} (hk : n.kind = .httpRequest) (t : Turn κ) (o : Outside κ) :
    Touches n t.session (t.request o n).2.session := by
  unfold request
  cases hq : n.read Request.decode with
  | error f => exact .nothing
  | ok q =>
    have hs := session_call t o q
    dsimp only
    split <;> rename_i u heq <;> rw [heq] at hs <;> change u.session = t.session at hs
    · rw [session_say, hs]; exact .nothing
    · show Touches n t.session (u.session.keepReply q _)
      rw [hs]; exact .vars q _ hk hq

theorem touches_jump {n : Node} (hk : n.kind = .jump) (t : Turn κ) (w : Workflow) (r : Rules) :
    Touches n t.session (t.jump w r n).2.session := by
  simp only [jump]
  split
  · exact .nothing
  · split
    · exact .jumpCounts _ hk
    · split <;> exact .jumpCounts _ hk

theorem touches_execute (t : Turn κ) (o : Outside κ) (w : Workflow) (r : Rules) (n : Node) :
    Touches n t.session (t.execute o w r n).2.session := by
  unfold execute
  split
  · exact touches_ask ‹_› t o r
  · simp only [branch, session_noteAll]; exact .nothing
  · rw [session_act]; exact .nothing
  · exact touches_request ‹_› t o
  · exact .nothing
  · exact .nothing
  · exact touches_jump ‹_› t w r
  · exact .nothing

/-! ### Turns -/

/-- What the steps of a workflow keep of a session is kept by any number of passes. -/
theorem iterate_pass_keeps {P : Session → Prop}
    (hP : ∀ n ∈ w.root.preorder, ∀ s s', Touches n s s' → P s → P s')
    {p : Option Node × Turn κ} (hmem : ∀ n, p.1 = some n → n ∈ w.root.preorder)
    (h : P p.2.session) (k : Nat) : P ((pass o w r)^[k] p).2.session := by
  induction k generalizing p with
  | zero => exact h
  | succ k ih =>
    rw [Function.iterate_succ_apply]
    obtain ⟨_ | n, t⟩ := p
    · exact ih hmem h
    · have hn := hmem n rfl
      have hs := hP n hn _ _ (touches_execute (t.begin n) o w r n) h
      rw [pass]
      split <;> rename_i heq <;> rw [heq] at hs
      · exact ih (fun m hm => by cases hm) hs
      · refine ih (fun m hm => ?_) hs
        subst hm
        exact (execute_next hn heq).1

end ChatFlow.Turn
