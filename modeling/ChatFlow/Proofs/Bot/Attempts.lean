import ChatFlow.Proofs.Bot.Answerable
import ChatFlow.Proofs.Bot.Session
import ChatFlow.Proofs.Choice.Selection

/-!
# How many wrong answers are borne

A question without a step below its branch for invalid answers is asked again after a wrong answer, as
often as the rules allow (`turn_of_borne`); the next wrong answer ends the conversation
(`turn_of_tooMany`). `Refusals` follows a conversation through wrong answers, and the number of them
decides what has become of it (`wrong_answers_are_capped`).
-/

namespace ChatFlow

open Step (QuestionData)

/-- A question comes to a verdict on a reply, which is whether it accepts it. -/
def Node.Judges (q : Node) (reply : String) (verdict : Bool) : Prop :=
  ∃ d, q.read QuestionData.decode = .ok d ∧ d.question.accepts reply = .ok verdict

/-- One more wrong answer is borne by a question. -/
def Session.Bears (s : Session) (r : Rules) (q : Node) : Prop :=
  r.maxInvalidAttempts = 0 ∨ s.attempts q.label + 1 ≤ r.maxInvalidAttempts

namespace Session

/-- A session after one more wrong answer to a question, which does not wait any longer. -/
def refused (s : Session) (q : Node) : Session :=
  { s with
    waiting := none
    invalidAttempts := s.invalidAttempts.put q.label (s.attempts q.label + 1) }

/-- A session that has become `s'` over `k` wrong answers to a question waits for one more answer to it;
nothing was learned, and no jump was counted. -/
structure AskedAgain (question : String) (k : Nat) (s s' : Session) : Prop where
  id : s'.id = s.id
  waiting : s'.waiting = some question
  attempts : s'.attempts question = k
  vars : s'.vars = s.vars
  contact : s'.contact = s.contact
  jumpCounts : s'.jumpCounts = s.jumpCounts

/-- No question has refused less than one answer without having taken one since, nor more than `cap`. -/
def CountsUpTo (cap : Int) (s : Session) : Prop :=
  ∀ question n, s.invalidAttempts.get? question = some n → 1 ≤ n ∧ n ≤ cap

variable {question : String} {k : Nat} {s s' : Session} {q : Node} {r : Rules}

theorem AskedAgain.touch (h : AskedAgain question k s s') (now : Instant) :
    AskedAgain question k s (s'.touch now) :=
  ⟨h.id, h.waiting, h.attempts, h.vars, h.contact, h.jumpCounts⟩

theorem AskedAgain.succ (h : AskedAgain question k s s') (hid : q.id = some question) :
    AskedAgain question (k + 1) s { s'.refused q with waiting := q.id } := by
  have hlabel : q.label = question := by rw [Node.label, hid]; rfl
  refine ⟨h.id, hid, ?_, h.vars, h.contact, h.jumpCounts⟩
  show ((s'.invalidAttempts.put q.label (s'.attempts q.label + 1)).get? question).getD 0 = _
  rw [hlabel, Assoc.get?_put_self, h.attempts]
  rfl

theorem AskedAgain.prompt? (h : AskedAgain question k s s') (q : Node) (r : Rules) :
    q.prompt? r s' = q.prompt? r s := by
  simp only [Node.prompt?, fill, h.id, h.vars, h.contact]

theorem CountsUpTo.congr {cap : Int} (h : s.CountsUpTo cap)
    (hs : s'.invalidAttempts = s.invalidAttempts) : s'.CountsUpTo cap :=
  fun question n hn => h question n (hs ▸ hn)

theorem CountsUpTo.erase {cap : Int} (h : s.CountsUpTo cap) {key : String}
    (hs : s'.invalidAttempts = s.invalidAttempts.erase key) : s'.CountsUpTo cap := by
  intro question n hn
  rw [hs, Assoc.get?_erase] at hn
  split at hn
  · cases hn
  · exact h question n hn

theorem CountsUpTo.attempts_nonneg {cap : Int} (h : s.CountsUpTo cap) (question : String) :
    0 ≤ s.attempts question := by
  rw [attempts]
  cases hn : s.invalidAttempts.get? question with
  | none => exact Int.le_refl 0
  | some n => exact Int.le_trans (by decide) (h question n hn).1

theorem CountsUpTo.refused {cap : Int} (h : s.CountsUpTo cap) (hle : s.attempts q.label + 1 ≤ cap) :
    (s.refused q).CountsUpTo cap := by
  intro question n hn
  have hnonneg := h.attempts_nonneg q.label
  change (s.invalidAttempts.put q.label (s.attempts q.label + 1)).get? question = some n at hn
  rw [Assoc.get?_put] at hn
  split at hn
  · cases hn
    constructor
    · omega
    · exact hle
  · exact h question n hn

end Session

namespace Turn

variable {κ : Type} {r : Rules} {q : Node} {reply : String}

/-! ### One answer -/

/-- Nothing below the branch for invalid answers takes a wrong answer up: the question itself comes
next if it bears it, and nothing if not. -/
theorem answer_of_refused (hq : q.Judges reply false) (hno : q.after? .invalidAnswer = none)
    (t : Turn κ) (r : Rules) :
    (t.answer r q reply).2.session = t.session.refused q ∧
      (t.session.Bears r q → (t.answer r q reply).1 = .ok (some q) ∧
        (t.answer r q reply).2.isLive = t.isLive) ∧
      (¬ t.session.Bears r q → (t.answer r q reply).1 = .ok none ∧
        (t.answer r q reply).2.isLive = false) := by
  obtain ⟨d, hd, hv⟩ := hq
  rw [answer_of_accepts hd hv, if_neg Bool.false_ne_true]
  simp only [refuse, hno]
  split
  · rename_i hmany
    have hmany' : ¬ t.session.Bears r q := by
      rintro (h | h)
      · exact hmany.1 h
      · exact absurd hmany.2 (Int.not_lt.2 h)
    refine ⟨?_, fun h => absurd h hmany', fun _ => ⟨rfl, isLive_finish _⟩⟩
    rw [session_finish]
    rfl
  · rename_i hborne
    refine ⟨rfl, fun _ => ⟨rfl, rfl⟩, fun hmany => absurd ?_ hborne⟩
    refine ⟨fun h => hmany (Or.inl h), ?_⟩
    exact Int.not_le.1 fun h => hmany (Or.inr h)

theorem invalidAttempts_answer_of_accepted (hq : q.Judges reply true) (t : Turn κ) (r : Rules) :
    (t.answer r q reply).2.session.invalidAttempts = t.session.invalidAttempts.erase q.label := by
  obtain ⟨d, hd, hv⟩ := hq
  rw [answer_of_accepts hd hv, if_pos rfl]
  simp only [take, modify]
  split
  · rw [Session.invalidAttempts_save]
  · rfl

/-- As long as a conversation goes on, no count leaves the range. -/
theorem countsUpTo_answer (hcap : 1 ≤ r.maxInvalidAttempts) (t : Turn κ) (q : Node) (reply : String)
    (h : t.session.CountsUpTo r.maxInvalidAttempts) (hlive : (t.answer r q reply).2.isLive = true) :
    (t.answer r q reply).2.session.CountsUpTo r.maxInvalidAttempts := by
  cases hd : q.read QuestionData.decode with
  | error f => simpa only [answer, hd] using h
  | ok d =>
    cases hv : d.question.accepts reply with
    | error f =>
      simp only [answer, hd, hv]
      exact h.congr rfl
    | ok verdict =>
      cases verdict with
      | true => exact h.erase (invalidAttempts_answer_of_accepted ⟨d, hd, hv⟩ t r)
      | false =>
        cases hno : q.after? .invalidAnswer with
        | some m =>
          rw [answer_of_accepts hd hv, if_neg Bool.false_ne_true]
          simp only [refuse, hno]
          exact h.congr rfl
        | none =>
          obtain ⟨hs, -, hmany⟩ := answer_of_refused ⟨d, hd, hv⟩ hno t r
          rw [hs]
          by_cases hborne : t.session.Bears r q
          · rcases hborne with h0 | hle
            · rw [h0] at hcap
              cases hcap
            · exact h.refused hle
          · rw [(hmany hborne).2] at hlive
            cases hlive

theorem run_of_sent {t : Turn κ} {o : Outside κ} {w : Workflow} {n : Node} {d : QuestionData}
    (hn : n ∈ w.root.preorder) (hk : n.kind = .question) (hd : n.read QuestionData.decode = .ok d)
    (hsent : (o.send t.world
      ⟨t.session.id, r.prompt d.question (t.session.fill d.question.text)⟩).1 = .ok ()) :
    (t.run o w r n hn).isLive = t.isLive ∧
      (t.run o w r n hn).session = { t.session with waiting := n.id } ∧
      ∃ m, n.prompt? r t.session = some m ∧ (t.run o w r n hn).messages = t.messages ++ [m] := by
  obtain ⟨hdone, hasked, hmsgs⟩ := execute_of_sent (t := t.begin n) (w := w) hk hd hsent
  have hlive : ((t.begin n).execute o w r n).2.isLive = t.isLive := by
    rw [execute, hk]
    exact isLive_ask ..
  rw [run_of_none hn (Prod.ext hdone rfl)]
  refine ⟨hlive, hasked, _, ?_, hmsgs.trans (by rw [messages_begin])⟩
  rw [Node.prompt?, hd]
  rfl

end Turn

namespace Bot

variable {κ : Type} {b : Bot κ} {st : State κ} {now : Instant} {c text : String} {s : Session}
  {q : Node}

/-! ### One message -/

theorem turn_of_borne (hl : st.registry.live? now c = some s) (hk : q.kind = .question)
    (hwait : s.waiting = q.id) (hname : q.HasName) (hq : b.workflow.question? s.waiting = some q)
    (hno : q.after? .invalidAnswer = none) (hreply : q.Judges text false) (hborne : s.Bears b.rules q)
    (hsend : ∀ world m, m.recipient = c → (b.outside.send world m).1 = .ok ()) (name : String) :
    (b.turn st now c text name).isLive = true ∧
      (b.turn st now c text name).session = { s.refused q with waiting := q.id } ∧
      ∃ m, q.prompt? b.rules (s.refused q) = some m ∧ (b.turn st now c text name).messages = [m] := by
  obtain ⟨d, hd, hv⟩ := id hreply
  obtain ⟨hn, hturn : b.turn st now c text name = _⟩ := turn_of_hasName hl hwait hname hq name
  have hmsgs := Turn.messages_answer (Turn.start s st.world) b.rules q text
  obtain ⟨hsession, hgoes, -⟩ := Turn.answer_of_refused hreply hno (Turn.start s st.world) b.rules
  obtain ⟨hnext, hlive⟩ := hgoes hborne
  have hjudge : b.turn st now c text name = ((Turn.start s st.world).answer b.rules q text).2.run
      b.outside b.workflow b.rules q hn := by
    rw [hturn]; exact Turn.judge_of_some hn (Prod.ext hnext rfl)
  generalize ((Turn.start s st.world).answer b.rules q text).2 = t at *
  have hid : t.session.id = c := by
    rw [hsession]
    show s.id = c
    exact Registry.id_of_live? hl
  obtain ⟨hlive', hasked, m, hm, hsent⟩ := Turn.run_of_sent (t := t) hn hk hd (hsend _ _ hid)
  rw [hjudge, hlive', hasked, hsent, hmsgs]
  rw [hsession] at hm ⊢
  exact ⟨hlive, rfl, m, hm, rfl⟩

theorem turn_of_tooMany (hl : st.registry.live? now c = some s) (hwait : s.waiting = q.id)
    (hname : q.HasName) (hq : b.workflow.question? s.waiting = some q)
    (hno : q.after? .invalidAnswer = none) (hreply : q.Judges text false)
    (hmany : ¬ s.Bears b.rules q) (name : String) :
    (b.turn st now c text name).isLive = false ∧ (b.turn st now c text name).messages = [] := by
  obtain ⟨hn, hturn : b.turn st now c text name = _⟩ := turn_of_hasName hl hwait hname hq name
  have hmsgs := Turn.messages_answer (Turn.start s st.world) b.rules q text
  obtain ⟨-, -, hends⟩ := Turn.answer_of_refused hreply hno (Turn.start s st.world) b.rules
  obtain ⟨hnext, hlive⟩ := hends hmany
  rw [hturn, Turn.judge_of_none hn (Prod.ext hnext rfl)]
  exact ⟨hlive, hmsgs⟩

theorem invalidAttempts_turn_of_accepted (hl : st.registry.live? now c = some s)
    (hwait : s.waiting = q.id) (hname : q.HasName) (hq : b.workflow.question? s.waiting = some q)
    (hreply : q.Judges text true) (name : String) :
    (b.turn st now c text name).session.invalidAttempts = s.invalidAttempts.erase q.label := by
  refine b.turn_keeps (P := (·.invalidAttempts = s.invalidAttempts.erase q.label))
    (fun _ _ _ _ ht h => ht.invalidAttempts.trans h) st now c text name ?_
  rcases b.session_opening st now c text name with ⟨hno, -⟩ | ⟨s', hl', h⟩
  · rw [hl] at hno; cases hno
  · obtain rfl : s = s' := Option.some.inj (hl.symm.trans hl')
    rcases h with ⟨hnone | hnone, -⟩ | ⟨q', hq', hs, -⟩
    · have hsome := (Session.pending?_isSome_iff hwait).2 hname
      rw [hnone] at hsome; cases hsome
    · rw [hq] at hnone; cases hnone
    · obtain rfl : q = q' := Option.some.inj (hq.symm.trans hq')
      rw [hs]
      exact Turn.invalidAttempts_answer_of_accepted hreply (Turn.start s st.world) b.rules

/-! ### Conversations -/

theorem countsUpTo_of_reaches {b : Bot κ} (hcap : 1 ≤ b.rules.maxInvalidAttempts)
    {timeout : Option Rat} {st : State κ} {lives : String → List Event}
    (hr : Reaches b timeout st lives) {c : String} {s : Session}
    (hs : st.registry.find? c = some s) : s.CountsUpTo b.rules.maxInvalidAttempts := by
  refine hr.forall_session (P := fun s _ => s.CountsUpTo b.rules.maxInvalidAttempts) ?_ hs
  intro st lives now id text name hst hlive
  refine b.turn_keeps (P := (·.CountsUpTo b.rules.maxInvalidAttempts))
    (fun _ _ _ _ ht h => h.congr ht.invalidAttempts) st now id text name ?_
  rcases b.session_opening st now id text name with ⟨-, hs⟩ | ⟨s, hl, h⟩
  · rw [hs]; exact nofun
  · obtain ⟨s', hs', rfl⟩ := Option.map_eq_some_iff.1 hl
    have hbefore : (s'.touch now).CountsUpTo b.rules.maxInvalidAttempts :=
      (hst s' (Option.filter_eq_some_iff.1 hs').1).congr rfl
    rcases h with ⟨-, hs⟩ | ⟨q, hq, hs, hanswered⟩ <;> rw [hs]
    · exact hbefore
    · have hopen := b.isLive_opening_of_turn st now id text name hlive
      exact Turn.countsUpTo_answer hcap (Turn.start (s'.touch now) st.world) q text hbefore
        (hanswered.symm.trans hopen)

/-- What a bot comes to from a state while `k` replies of a conversation are wrong answers to a
question, each before the session expires, and whatever others do in between; with what happens in the
conversation. -/
inductive Refusals (b : Bot κ) (c : String) (q : Node) (st : State κ) :
    Nat → State κ → List Event → Prop
  | none {later : State κ} (h : Meanwhile b c st later) : Refusals b c q st 0 later []
  | reply {k : Nat} {before later : State κ} {es : List Event} (h : Refusals b c q st k before es)
      (now : Instant) (text name : String)
      (hlive : ∀ s, before.registry.find? c = some s → before.registry.isExpired now s = false)
      (hreply : q.Judges text false)
      (hlater : Meanwhile b c (b.handle before now c text name).1 later) :
      Refusals b c q st (k + 1) later (es ++ (b.handle before now c text name).2)

section Refusals

variable {question : String} {k : Nat} {later : State κ} {es : List Event}
  (h : Refusals b c q st k later es) (hk : q.kind = .question) (hid : q.id = some question)
  (hne : question ≠ "") (hq : b.workflow.question? (some question) = some q)
  (hno : q.after? .invalidAnswer = none)
  (hsend : ∀ world m, m.recipient = c → (b.outside.send world m).1 = .ok ())
  (hs : st.registry.find? c = some s) (hwait : s.waiting = some question)
  (hnone : s.invalidAttempts.get? question = none)

include h hk hid hne hq hno hsend hs hwait hnone

/-- As long as wrong answers are borne, the question is asked again after each of them. -/
theorem askedAgain_of_refusals
    (hle : b.rules.maxInvalidAttempts = 0 ∨ (k : Int) ≤ b.rules.maxInvalidAttempts) :
    ∃ s', later.registry.find? c = some s' ∧ Session.AskedAgain question k s s' ∧
      (Event.messages es).map some = List.replicate k (q.prompt? b.rules s) := by
  induction h with
  | none h =>
    refine ⟨s, h.keeps.1.trans hs, ⟨rfl, hwait, ?_, rfl, rfl, rfl⟩, rfl⟩
    rw [Session.attempts, hnone]
    rfl
  | @reply k before later es h now text name hlive hreply hlater ih =>
    obtain ⟨s', hs', ha, hm⟩ := ih (hle.imp_right fun hle => by omega)
    have hl : before.registry.live? now c = some (s'.touch now) :=
      Registry.live?_of_find? hs' (hlive s' hs')
    have ha' := ha.touch now
    have hlabel : q.label = question := by rw [Node.label, hid]; rfl
    have hborne : (s'.touch now).Bears b.rules q := by
      rw [Session.Bears, hlabel, ha'.attempts]
      exact hle.imp_right fun hle => by omega
    obtain ⟨halive, hsession, m, hprompt, hsent⟩ := turn_of_borne hl hk (ha'.waiting.trans hid.symm)
      ⟨question, hid, hne⟩ (ha'.waiting ▸ hq) hno hreply hborne hsend name
    obtain ⟨hfind, -, hmessages, -⟩ := b.handle_view before now c text name
    refine ⟨_, ?_, ha'.succ hid, ?_⟩
    · rw [hlater.keeps.1, hfind, halive, if_pos rfl, hsession]
    · have hm' : q.prompt? b.rules s = some m := (ha'.prompt? q b.rules).symm.trans hprompt
      rw [Event.messages, List.filterMap_append, List.map_append]
      rw [show (b.handle before now c text name).2.filterMap Event.sent? = [m] from
        hmessages.trans hsent, List.replicate_succ', hm']
      rw [hm'] at hm
      exact congrArg (· ++ [some m]) hm

/-- After as many wrong answers as are borne, the next one ends the conversation. -/
theorem ended_of_refusals (hcap : 1 ≤ b.rules.maxInvalidAttempts)
    (hlast : k = b.rules.maxInvalidAttempts) (hreply : q.Judges text false)
    (hlive : ∀ s', later.registry.find? c = some s' → later.registry.isExpired now s' = false)
    (name : String) :
    (b.handle later now c text name).1.registry.find? c = none ∧
      Event.messages (b.handle later now c text name).2 = [] := by
  obtain ⟨s', hs', ha, -⟩ := askedAgain_of_refusals h hk hid hne hq hno hsend hs hwait hnone
    (Or.inr (Int.le_of_eq hlast))
  have hl : later.registry.live? now c = some (s'.touch now) :=
    Registry.live?_of_find? hs' (hlive s' hs')
  have ha' := ha.touch now
  have hlabel : q.label = question := by rw [Node.label, hid]; rfl
  have hmany : ¬ (s'.touch now).Bears b.rules q := by
    rw [Session.Bears, hlabel, ha'.attempts]
    omega
  obtain ⟨hended, hsilent⟩ := turn_of_tooMany hl (ha'.waiting.trans hid.symm) ⟨question, hid, hne⟩
    (ha'.waiting ▸ hq) hno hreply hmany name
  obtain ⟨hgone, -, hmessages, -⟩ := b.handle_view later now c text name
  refine ⟨?_, hmessages.trans hsilent⟩
  rw [hgone, hended]
  rfl

end Refusals

/-- Wrong answers are borne up to a limit, and no further. With a strictly loaded workflow, let a
session wait on a question that has no step below its branch for invalid answers, with none of its
answers refused so far, and let the channel take what is sent to the customer. After `k` wrong answers
in time, whatever others do meanwhile, the session waits on the question again: its prompt has been
sent `k` times and nothing else, `k` refused answers are counted, and nothing was learned; so for any
`k` if there is no limit, and up to the limit if there is one. The next wrong answer then ends the
conversation, and nothing is sent. In whatever state the bot comes to, every count lies between one and
the limit; a valid answer removes the count of its question and leaves all others. -/
theorem wrong_answers_are_capped {definition : Json} {name : Option String} {w : Workflow}
    {log : List Log.Entry} (hw : Workflow.ofDefinition definition true name = .ok (w, log))
    {rules : Rules} {o : Outside κ} {q : Node} (hq : q ∈ w.root.preorder) (hk : q.kind = .question)
    {question : String} (hid : q.id = some question) (hne : question ≠ "") :
    let b : Bot κ := ⟨w, rules, o⟩
    let cap := rules.maxInvalidAttempts
    (q.after? .invalidAnswer = none →
      ∀ c, (∀ world m, m.recipient = c → (o.send world m).1 = .ok ()) →
      ∀ (st : State κ) s, st.registry.find? c = some s → s.waiting = some question →
        s.invalidAttempts.get? question = none →
      ∀ k later es, Refusals b c q st k later es →
        (cap = 0 ∨ k ≤ cap → ∃ s', later.registry.find? c = some s' ∧
          Session.AskedAgain question k s s' ∧
          (Event.messages es).map some = List.replicate k (q.prompt? rules s)) ∧
        (1 ≤ cap → k = cap → ∀ now text displayName, q.Judges text false →
          (∀ s', later.registry.find? c = some s' → later.registry.isExpired now s' = false) →
          (b.handle later now c text displayName).1.registry.find? c = none ∧
            Event.messages (b.handle later now c text displayName).2 = [])) ∧
    (1 ≤ cap → ∀ timeout st lives, Reaches b timeout st lives → ∀ c s,
      st.registry.find? c = some s → ∀ other n, s.invalidAttempts.get? other = some n →
        1 ≤ n ∧ n ≤ cap) ∧
    ∀ st now c text displayName s s', st.registry.live? now c = some s →
      s.waiting = some question → q.Judges text true →
      (b.handle st now c text displayName).1.registry.find? c = some s' →
      ∀ other, s'.invalidAttempts.get? other =
        if question = other then none else s.invalidAttempts.get? other := by
  intro b cap
  have hfind : w.question? (some question) = some q :=
    Workflow.question?_eq_some_iff.2 ⟨Workflow.lookup?_of_mem hw hq hid, hk⟩
  have hlabel : q.label = question := by rw [Node.label, hid]; rfl
  have hname : q.HasName := ⟨question, hid, hne⟩
  refine ⟨?_, ?_, ?_⟩
  · intro hno c hsend st s hs hwait hnone k later es h
    refine ⟨askedAgain_of_refusals h hk hid hne hfind hno hsend hs hwait hnone, ?_⟩
    intro hcap hlast now text displayName hreply hlive
    exact ended_of_refusals h hk hid hne hfind hno hsend hs hwait hnone hcap hlast hreply hlive
      displayName
  · intro hcap timeout st lives hr c s hs
    exact countsUpTo_of_reaches hcap hr hs
  · intro st now c text displayName s s' hl hwait hreply hs' other
    have hcounts := invalidAttempts_turn_of_accepted (b := b) hl (hwait.trans hid.symm) hname
      (hwait ▸ hfind) hreply displayName
    rw [find?_handle, if_pos rfl] at hs'
    split at hs' <;> cases hs'
    rw [hcounts, Assoc.get?_erase, hlabel]

/-- A choice between two options that bears one wrong answer: after the first the question is asked
again, and the second ends the conversation. -/
theorem wrong_answers_are_capped_at_one :
    let question : Json := .obj [("type", .str "multiple"), ("text", .str "Go on?"),
      ("options", .arr [.str "yes", .str "no"])]
    let definition : Json := .obj [("type", .str "Trigger"), ("childs", .arr [
      .obj [("id", .int 1), ("type", .str "QuestionStep"), ("data", .obj [("question", question)])]])]
    let ask : Node := ⟨some "1", .question, [("question", question)], []⟩
    let w : Workflow := ⟨⟨none, .other "Trigger", [], [ask]⟩, [("1", ask)], "choice", fun h => by
      cases List.mem_singleton.1 (Assoc.mem_of_get? h)
      exact Node.mem_preorder_of_child List.mem_cons_self (Node.mem_preorder_self _)⟩
    let o : Outside Unit := ⟨fun _ _ => (.ok (), [], ()), fun _ _ => (none, ()), fun _ => none⟩
    let b : Bot Unit := ⟨w, ⟨3, 1, Rules.standardListButton⟩, o⟩
    let asked := (b.handle ⟨.empty none, ()⟩ (.ofInt 0) "a" "hello" "Ada").1
    let again := b.handle asked (.ofInt 5) "a" "maybe" "Ada"
    let ended := b.handle again.1 (.ofInt 9) "a" "perhaps" "Ada"
    Workflow.ofDefinition definition true (some "choice") = .ok (w, w.report) ∧
      (∃ s, again.1.registry.find? "a" = some s ∧ s.waiting = some "1" ∧ s.attempts "1" = 1 ∧
        (∀ n, s.invalidAttempts.get? "1" = some n → 1 ≤ n ∧ n ≤ 1)) ∧
      (Event.messages again.2).map some = [some ⟨"a", .buttons "Go on?" ["yes", "no"]⟩] ∧
      ended.1.registry.find? "a" = none ∧ Event.messages ended.2 = [] := by
  intro question definition ask w o b asked again ended
  have hw : Workflow.ofDefinition definition true (some "choice") = .ok (w, w.report) := rfl
  have hask : ask ∈ w.root.preorder :=
    Node.mem_preorder_of_child List.mem_cons_self (Node.mem_preorder_self _)
  let s : Session := { Session.start (.ofInt 0) "a" "Ada" with waiting := some "1" }
  have hfirst : b.turn ⟨.empty none, ()⟩ (.ofInt 0) "a" "hello" "Ada" =
      (((Turn.start (Session.start (.ofInt 0) "a" "Ada") ()).begin ask).execute o w b.rules ask).2 :=
    Turn.run_of_none (t := Turn.start (Session.start (.ofInt 0) "a" "Ada") ()) hask rfl
  have hs : asked.registry.find? "a" = some s := by rw [find?_handle, if_pos rfl, hfirst]; rfl
  have hlive (st : State Unit) (ht : st.registry.idleTimeout = none) (now : Instant) (s : Session) :
      st.registry.isExpired now s = false := by rw [Registry.isExpired, ht]
  have htime : asked.registry.idleTimeout = none := idleTimeout_handle ..
  have htime' : again.1.registry.idleTimeout = none := (idleTimeout_handle ..).trans htime
  have hr : Refusals b "a" ask asked 1 again.1 ([] ++ again.2) :=
    .reply (.none .refl) (.ofInt 5) "maybe" "Ada" (fun s _ => hlive asked htime _ s) ⟨_, rfl, rfl⟩ .refl
  obtain ⟨hcapped, hcounts, -⟩ := @wrong_answers_are_capped Unit _ _ _ _ hw b.rules o ask hask rfl
    "1" rfl (by decide)
  obtain ⟨hagain, hends⟩ := hcapped rfl "a" (fun _ _ _ => rfl) asked s hs rfl rfl 1 _ _ hr
  obtain ⟨s', hs', ha, hm⟩ := hagain (Or.inr (Int.le_refl 1))
  obtain ⟨hgone, hsilent⟩ := hends (Int.le_refl 1) rfl (.ofInt 9) "perhaps" "Ada" ⟨_, rfl, rfl⟩
    fun s _ => hlive again.1 htime' _ s
  have hreaches : Reaches b none again.1 _ :=
    (Reaches.message (.start ()) (.ofInt 0) "a" "hello" "Ada").message (.ofInt 5) "a" "maybe" "Ada"
  refine ⟨hw, ⟨s', hs', ha.waiting, ha.attempts, ?_⟩, hm, hgone, hsilent⟩
  exact hcounts (Int.le_refl 1) none _ _ hreaches "a" s' hs' "1"

end Bot

end ChatFlow
