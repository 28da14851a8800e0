import ChatFlow.Proofs.Bot.Reachable

/-!
# Replies that cannot be judged

Judging a reply fails if the question cannot be read, or if it is a list whose rows cannot be
(`answer_error_iff`). In the first case nothing is changed. In the second the question has been taken
off already: it waits no longer, and the next reply is ignored (`failed_reply_keeps_session_iff`). A
question that a bot has asked can be read, so a bot only ever meets the second case.
-/

namespace ChatFlow

open Step (Question QuestionData)

/-- A question is not to be read, or its rows are not. -/
inductive Node.Unjudgeable (q : Node) (f : Fault) : Prop
  | question (h : q.read QuestionData.decode = .error f)
  | rows (d : QuestionData) (hd : q.read QuestionData.decode = .ok d)
      (hform : d.question.form = .listRow) (h : d.question.rowTitles = .error f)

theorem Step.Question.accepts_eq_error_iff {q : Question} {reply : String} {f : Fault} :
    q.accepts reply = .error f ↔ q.form = .listRow ∧ q.rowTitles = .error f := by
  unfold accepts
  split <;> rename_i hform
  · simp [hform]
  · cases hrows : q.rowTitles <;> simp [hform, bind, Except.bind, pure, Except.pure]
  · simp [hform]
  · simp [hform]

namespace Turn

variable {κ : Type} {t t' : Turn κ} {o : Outside κ} {w : Workflow} {r : Rules} {q : Node}
  {reply : String} {f : Fault}

/-- What a reply that fails to be judged leaves: all as it was if the question cannot be read, and a
session that waits on nothing if it can. -/
theorem answer_of_error (h : t.answer r q reply = (.error f, t')) :
    q.read QuestionData.decode = .error f ∧ t' = t ∨
      ∃ d, q.read QuestionData.decode = .ok d ∧ d.question.accepts reply = .error f ∧
        t' = t.modify fun s => { s with waiting := none } := by
  unfold answer at h
  split at h
  · rename_i hd
    cases h
    exact Or.inl ⟨hd, rfl⟩
  · rename_i d hd
    dsimp only at h
    split at h
    · rename_i hrows
      cases h
      exact Or.inr ⟨d, hd, hrows, rfl⟩
    · cases h
    · simp only [refuse] at h
      split at h
      · cases h
      · split at h <;> cases h

/-- Whether a reply can be judged does not hang on what it says. -/
theorem answer_error_iff :
    (t.answer r q reply).1 = .error f ↔ q.Unjudgeable f := by
  constructor
  · intro h
    obtain ⟨t', ht'⟩ : ∃ t', t.answer r q reply = (.error f, t') := ⟨_, Prod.ext h rfl⟩
    rcases answer_of_error ht' with ⟨hd, -⟩ | ⟨d, hd, hrows, -⟩
    · exact .question hd
    · obtain ⟨hform, hrows⟩ := Question.accepts_eq_error_iff.1 hrows
      exact .rows d hd hform hrows
  · rintro (hd | ⟨d, hd, hform, hrows⟩)
    · rw [answer, hd]
    · have hwrong : d.question.accepts reply = .error f :=
        Question.accepts_eq_error_iff.2 ⟨hform, hrows⟩
      simp only [answer, hd, hwrong]

theorem events_resume_of_error (hq : w.question? t.session.waiting = some q)
    (h : t.answer r q reply = (.error f, t')) :
    (t.resume o w r reply).events = t.events ++
      [.noted (.failure .interpreter (some t.session.id)
        ("Error processing answer to " ++ q.label) f)] ∧
    (t.resume o w r reply).isLive = t.isLive ∧ (t.resume o w r reply).world = t.world ∧
    (t.resume o w r reply).session = t'.session := by
  rw [resume_of_some hq, judge_of_error _ h]
  rcases answer_of_error h with ⟨-, rfl⟩ | ⟨-, -, -, rfl⟩ <;> exact ⟨rfl, rfl, rfl, rfl⟩

end Turn

namespace Bot

variable {κ : Type}

theorem waiting_of_question? {w : Workflow} {s : Session} {q : Node}
    (hq : w.question? s.waiting = some q) : ∃ id, s.waiting = some id := by
  cases hid : s.waiting with
  | none => rw [hid] at hq; cases hq
  | some id => exact ⟨id, rfl⟩

theorem read_of_reaches {definition : Json} {name : Option String} {w : Workflow}
    {log : List Log.Entry} (hw : Workflow.ofDefinition definition true name = .ok (w, log))
    {rules : Rules} {o : Outside κ} {timeout : Option Rat} {st : State κ}
    {lives : String → List Event} (hr : Reaches ⟨w, rules, o⟩ timeout st lives) {c : String}
    {s : Session} (hs : st.registry.find? c = some s) {q : Node}
    (hq : w.question? s.waiting = some q) : ∃ d, q.read QuestionData.decode = .ok d := by
  obtain ⟨id, hid⟩ := waiting_of_question? hq
  obtain ⟨q', ha⟩ := (armed_of_reaches hr c s hs).awaits hid
  obtain rfl : q' = q := Option.some.inj ((question?_of_awaits hw ha hid).symm.trans hq)
  obtain ⟨m, hm, -⟩ := ha.lastMessage
  unfold Node.prompt? at hm
  split at hm
  · exact ⟨_, ‹_›⟩
  · cases hm

/-- A reply that fails to be judged leaves the session as it was exactly if the question cannot be
read. If it can, which is so for every question that a bot has asked, the session waits on nothing
afterwards and is the same otherwise. In both cases nothing but the failure happens. -/
theorem failed_reply_keeps_session_iff {definition : Json} {name : Option String} {w : Workflow}
    {log : List Log.Entry} (hw : Workflow.ofDefinition definition true name = .ok (w, log))
    {rules : Rules} {o : Outside κ} {s : Session} (world : κ) {q : Node} {reply : String} {f : Fault}
    (hq : w.question? s.waiting = some q)
    (hfail : ((Turn.start s world).answer rules q reply).1 = .error f) :
    let t := (Turn.start s world).resume o w rules reply
    q.Unjudgeable f ∧
    t.events = [.noted (.failure .interpreter (some s.id)
      ("Error processing answer to " ++ q.label) f)] ∧
    t.isLive = true ∧ t.world = world ∧
    (t.session = s ∨ t.session = { s with waiting := none }) ∧
    (t.session = s ↔ q.read QuestionData.decode = .error f) ∧
    ∀ timeout st lives c, Reaches ⟨w, rules, o⟩ timeout st lives →
      st.registry.find? c = some s → t.session = { s with waiting := none } ∧ t.session ≠ s := by
  intro t
  obtain ⟨t', ht'⟩ : ∃ t', (Turn.start s world).answer rules q reply = (.error f, t') :=
    ⟨_, Prod.ext hfail rfl⟩
  obtain ⟨hevents, hlive, hworld, hsession⟩ :=
    Turn.events_resume_of_error (o := o) (t := Turn.start s world) hq ht'
  obtain ⟨id, hwaits⟩ := waiting_of_question? hq
  have hlost : { s with waiting := none } ≠ s := fun h => by
    have hno : none = s.waiting := congrArg (·.waiting) h
    rw [hwaits] at hno; cases hno
  refine ⟨Turn.answer_error_iff.1 hfail, hevents, hlive, hworld, ?_⟩
  rcases Turn.answer_of_error ht' with ⟨hd, rfl⟩ | ⟨d, hd, -, rfl⟩
  · refine ⟨Or.inl hsession, ⟨fun _ => hd, fun _ => hsession⟩, ?_⟩
    intro timeout st lives c hr hs
    obtain ⟨d, hd'⟩ := read_of_reaches hw hr hs hq
    rw [hd] at hd'
    cases hd'
  · have ht : t.session = { s with waiting := none } := hsession
    refine ⟨Or.inr ht, ⟨fun h => absurd (ht.symm.trans h) hlost, fun h => ?_⟩, ?_⟩
    · rw [hd] at h; cases h
    · intro timeout st lives c hr hs
      exact ⟨ht, fun h => hlost (ht.symm.trans h)⟩

/-- The second row of a list is null: the list is sent, but no reply to it can be judged, and the
first one already makes the session wait on nothing. -/
theorem failed_reply_keeps_session_iff_null_row :
    let rows : Json := .arr [.obj [("title", .str "A")], .null]
    let list : Json := .obj [("action", .obj [("sections", .arr [.obj [("rows", rows)]])])]
    let payload : Assoc Json := [("question",
      .obj [("type", .str "whatsapp_list"), ("text", .str "Pick"), ("interactive", list)])]
    let definition : Json := .obj [("type", .str "Root"), ("childs", .arr [
      .obj [("id", .str "q"), ("type", .str "QuestionStep"), ("data", .obj payload)]])]
    let ask : Node := ⟨some "q", .question, payload, []⟩
    let w : Workflow := ⟨⟨none, .other "Root", [], [ask]⟩, [("q", ask)], "pick", fun h => by
      cases List.mem_singleton.1 (Assoc.mem_of_get? h)
      exact Node.mem_preorder_of_child List.mem_cons_self (Node.mem_preorder_self _)⟩
    let o : Outside Unit := ⟨fun _ _ => (.ok (), [], ()), fun _ _ => (none, ()), fun _ => none⟩
    let rules : Rules := ⟨10, 0, Rules.standardListButton⟩
    let st := (handle ⟨w, rules, o⟩ ⟨.empty none, ()⟩ (.ofInt 0) "c" "hi" "Sara").1
    let s : Session := { Session.start (.ofInt 0) "c" "Sara" with waiting := some "q" }
    let t := (Turn.start s ()).resume o w rules "A"
    Workflow.ofDefinition definition true (some "pick") = .ok (w, w.report) ∧
      st.registry.find? "c" = some s ∧ w.question? s.waiting = some ask ∧
      ((Turn.start s ()).answer rules ask "A").1 = .error .wrongKind ∧
      t.session = { s with waiting := none } ∧ t.session ≠ s := by
  intro rows list payload definition ask w o rules st s t
  have hw : Workflow.ofDefinition definition true (some "pick") = .ok (w, w.report) := rfl
  have hr : Reaches ⟨w, rules, o⟩ none st _ := .message (.start ()) (.ofInt 0) "c" "hi" "Sara"
  have hask : ask ∈ w.root.preorder :=
    Node.mem_preorder_of_child List.mem_cons_self (Node.mem_preorder_self _)
  have hturn : turn ⟨w, rules, o⟩ ⟨.empty none, ()⟩ (.ofInt 0) "c" "hi" "Sara" =
      (Turn.start (Session.start (.ofInt 0) "c" "Sara") ()).run o w rules ask hask := rfl
  have hs : st.registry.find? "c" = some s := by
    rw [find?_handle, if_pos rfl, hturn, Turn.run_of_none hask rfl]; rfl
  have hq : w.question? s.waiting = some ask := rfl
  have hfail : ((Turn.start s ()).answer rules ask "A").1 = .error .wrongKind := rfl
  obtain ⟨-, -, -, -, -, -, hreached⟩ :=
    failed_reply_keeps_session_iff (o := o) hw () hq hfail
  exact ⟨hw, hs, hq, hfail, hreached none st _ "c" hr hs⟩

end Bot

end ChatFlow
