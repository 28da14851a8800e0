import ChatFlow.Proofs.Bot.Session

/-!
# When a session was last active

Nothing that happens in a turn touches the time of a session's last activity. So after a message it
is the time of the message (`lastActivity_turn`), and a registry knows no other times than those at
which messages were handled (`lastActivity_handle`).
-/

namespace ChatFlow

@[simp] theorem Session.lastActivity_save (s : Session) (t : Step.Target) (v : String) :
    (s.save t v).lastActivity = s.lastActivity := by
  simp only [save]; split <;> split <;> rfl

namespace Turn

variable {κ : Type}

theorem lastActivity_answer (t : Turn κ) (r : Rules) (q : Node) (reply : String) :
    (t.answer r q reply).2.session.lastActivity = t.session.lastActivity := by
  unfold answer
  split
  · rfl
  · dsimp only
    split
    · rfl
    · simp only [take, modify]
      split <;> simp
    · simp only [refuse]
      split
      · rfl
      · split
        · rw [session_finish]; rfl
        · rfl

end Turn

namespace Bot

variable {κ : Type}

theorem lastActivity_opening (b : Bot κ) (st : State κ) (now : Instant) (id text name : String) :
    (b.opening st now id text name).2.session.lastActivity = now := by
  rcases b.session_opening st now id text name with ⟨-, hs⟩ | ⟨s, hl, hs⟩
  · rw [hs]; rfl
  · obtain ⟨s', -, rfl⟩ := Option.map_eq_some_iff.1 hl
    rcases hs with ⟨-, hs⟩ | ⟨q, -, hs, -⟩ <;> rw [hs]
    · rfl
    · exact Turn.lastActivity_answer ..

theorem lastActivity_turn (b : Bot κ) (st : State κ) (now : Instant) (id text name : String) :
    (b.turn st now id text name).session.lastActivity = now :=
  b.turn_keeps (P := (·.lastActivity = now)) (fun _ _ _ _ hs h => hs.lastActivity.trans h) st now id
    text name (lastActivity_opening ..)

theorem lastActivity_handle (b : Bot κ) (st : State κ) (now : Instant) (id text name : String)
    {c : String} {s : Session} (hs : (b.handle st now id text name).1.registry.find? c = some s) :
    s.lastActivity = now ∨ st.registry.find? c = some s := by
  rw [find?_handle] at hs
  split at hs
  · split at hs <;> cases hs
    exact Or.inl (b.lastActivity_turn ..)
  · exact Or.inr hs

end Bot

end ChatFlow
