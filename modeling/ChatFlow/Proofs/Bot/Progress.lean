import ChatFlow.Proofs.Bot.Jumping
import ChatFlow.Proofs.Turn.Progress

/-!
# Where conversations come to a halt

With a strictly loaded workflow whose steps all lead on, and as long as every message is accepted, a
bot comes to two kinds of sessions only (`settled_of_reaches`): those that wait on a question, and
those in which a jump was taken once more than it may be. The second kind ignores its customer, so
what is left to say of a workflow is how its jumps can be used up.
-/

namespace ChatFlow.Bot

open Session (Settled)
open Turn (Going Settles)

variable {κ : Type} {definition : Json} {name : Option String} {w : Workflow} {log : List Log.Entry}
  {r : Rules} {o : Outside κ}

theorem question?_of_leadsOn (hw : Workflow.ofDefinition definition true name = .ok (w, log))
    (hl : w.LeadsOn r) {q : Node} (hq : q ∈ w.root.preorder) (hk : q.kind = .question) {s : Session}
    (hid : s.waiting = q.id) : s.pending?.isSome ∧ w.question? s.waiting = some q := by
  obtain ⟨d, id, m, -, hqid, hne, -⟩ := Turn.exists_question (hl.nodes q hq) hk
  refine ⟨(Session.pending?_isSome_iff hid).2 ⟨id, hqid, hne⟩, ?_⟩
  rw [hid, hqid]
  exact Workflow.question?_eq_some_iff.2 ⟨Workflow.lookup?_of_mem hw hq hqid, hk⟩

theorem settles_hear (hw : Workflow.ofDefinition definition true name = .ok (w, log))
    (hl : w.LeadsOn r) (ho : o.AcceptsAll) (t : Turn κ) (text : String)
    (ht : t.session.Settled w r) : Settles w r (hear ⟨w, r, o⟩ t text) := by
  cases ht with
  | waits q mem kind id within =>
    obtain ⟨hpending, hq⟩ := question?_of_leadsOn hw hl mem kind id
    obtain ⟨waiting, hwaiting⟩ := Option.isSome_iff_exists.1 hpending
    simp only [hear, hwaiting]
    rw [Turn.resume_of_some hq]
    exact Turn.settles_judge hl ho t q _ kind text within
  | stuck e mem waiting used =>
    have hpending : t.session.pending? = none := by rw [Session.pending?, waiting]; rfl
    simp only [hear, hpending]
    exact fun _ => .stuck e mem waiting used

theorem settles_turn (hw : Workflow.ofDefinition definition true name = .ok (w, log))
    (hl : w.LeadsOn r) (ho : o.AcceptsAll) (st : State κ) (now : Instant)
    (id text displayName : String)
    (hst : ∀ s, st.registry.find? id = some s → s.Settled w r) :
    Settles w r (turn ⟨w, r, o⟩ st now id text displayName) := by
  unfold turn
  cases hlive : st.registry.live? now id with
  | none =>
    exact Turn.settles_runFrom hl ho _ _ _ hl.entry
      ⟨rfl, Session.isWithin_start now id displayName⟩
  | some s =>
    obtain ⟨s', hs', rfl⟩ := Option.map_eq_some_iff.1 hlive
    have hsettled := hst s' (Option.filter_eq_some_iff.1 hs').1
    exact settles_hear hw hl ho _ text (hsettled.congr rfl rfl)

/-- In whatever state a bot comes to, all sessions are settled. -/
theorem settled_of_reaches (hw : Workflow.ofDefinition definition true name = .ok (w, log))
    (hl : w.LeadsOn r) (ho : o.AcceptsAll) {timeout : Option Rat} {st : State κ}
    {lives : String → List Event} (hr : Reaches ⟨w, r, o⟩ timeout st lives) (c : String)
    (s : Session) (hs : st.registry.find? c = some s) : s.Settled w r := by
  refine hr.forall_session (P := fun s _ => s.Settled w r) ?_ hs
  intro st lives now id text displayName hst hlive
  exact settles_turn hw hl ho st now id text displayName hst hlive

end ChatFlow.Bot
