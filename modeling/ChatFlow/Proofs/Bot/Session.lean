import ChatFlow.Proofs.Bot.Outcome
import ChatFlow.Proofs.Bot.Reachable

/-!
# What a message does to its session

A turn works on a new session, or on the one in progress, in which an answer is judged if a question
waits (`session_opening`); the rest are steps (`passed_keeps`).
-/

namespace ChatFlow.Bot

variable {κ : Type}

theorem session_opening (b : Bot κ) (st : State κ) (now : Instant) (id text name : String) :
    st.registry.live? now id = none ∧
        (b.opening st now id text name).2.session = Session.start now id name ∨
      ∃ s, st.registry.live? now id = some s ∧
        ((s.pending? = none ∨ b.workflow.question? s.waiting = none) ∧
            (b.opening st now id text name).2.session = s ∨
          ∃ q, b.workflow.question? s.waiting = some q ∧
            (b.opening st now id text name).2.session =
              ((Turn.start s st.world).answer b.rules q text).2.session ∧
            (b.opening st now id text name).2.isLive =
              ((Turn.start s st.world).answer b.rules q text).2.isLive) := by
  unfold opening
  cases hl : st.registry.live? now id with
  | none => exact Or.inl ⟨rfl, rfl⟩
  | some s =>
    refine Or.inr ⟨s, rfl, ?_⟩
    dsimp only
    split
    · rename_i hp
      exact Or.inl ⟨Or.inl hp, rfl⟩
    · rename_i hq
      refine Or.inl ⟨Or.inr hq, ?_⟩
      rw [Turn.lose, Turn.session_finish]
      rfl
    · rename_i q _ hq
      refine Or.inr ⟨q, hq, ?_⟩
      split <;> rename_i heq <;> rw [heq] <;> exact ⟨rfl, rfl⟩

/-- What a session keeps in every step of a workflow, it keeps in a turn, however far that has come. -/
theorem passed_keeps {P : Session → Prop} (b : Bot κ)
    (hP : ∀ n ∈ b.workflow.root.preorder, ∀ s s', Turn.Touches n s s' → P s → P s') (st : State κ)
    (now : Instant) (id text name : String) (h : P (b.opening st now id text name).2.session)
    (k : Nat) :
    P ((Turn.pass b.outside b.workflow b.rules)^[k] (b.opening st now id text name)).2.session := by
  obtain ⟨hmem, -⟩ := exists_turn_eq_runFrom b st now id text name
  exact Turn.iterate_pass_keeps hP hmem h k

theorem turn_keeps {P : Session → Prop} (b : Bot κ)
    (hP : ∀ n ∈ b.workflow.root.preorder, ∀ s s', Turn.Touches n s s' → P s → P s') (st : State κ)
    (now : Instant) (id text name : String) (h : P (b.opening st now id text name).2.session) :
    P (b.turn st now id text name).session := by
  obtain ⟨k, hk⟩ := b.exists_iterate_pass_eq_turn st now id text name
  have hlast := b.passed_keeps hP st now id text name h k
  rwa [hk] at hlast

theorem isLive_opening_of_turn (b : Bot κ) (st : State κ) (now : Instant) (id text name : String)
    (h : (b.turn st now id text name).isLive = true) :
    (b.opening st now id text name).2.isLive = true := by
  have step (p : Option Node × Turn κ)
      (hp : (Turn.pass b.outside b.workflow b.rules p).2.isLive = true) : p.2.isLive = true := by
    obtain ⟨_ | n, t⟩ := p
    · exact hp
    · have hx := (t.begin n).execute_live_cases (o := b.outside) (w := b.workflow) (r := b.rules) n
      have hlive : ((t.begin n).execute b.outside b.workflow b.rules n).2.isLive = true := by
        rw [Turn.pass] at hp
        split at hp <;> rename_i heq <;> rw [heq] <;> exact hp
      rcases hx with hx | ⟨-, -, -, hx⟩ <;> rw [hlive] at hx
      · exact hx.symm
      · cases hx
  obtain ⟨k, hk⟩ := b.exists_iterate_pass_eq_turn st now id text name
  generalize b.opening st now id text name = p at hk ⊢
  induction k generalizing p with
  | zero => rw [show p = _ from hk]; exact h
  | succ k ih => exact step p (ih _ hk)

end ChatFlow.Bot
