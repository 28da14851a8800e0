import ChatFlow.Proofs.Choice.Offer
import ChatFlow.Proofs.Choice.Tap
import ChatFlow.Proofs.Turn.Work
import ChatFlow.Service
import Mathlib

/-!
# A tapped choice comes back as its option

What a customer can tap are the labels of the options (`Rules.choices_offer`), and the text of a tap
is the label (`Tap.exists_extract`). Here the label is taken for an option again: for the one it
stands for if no other has the same label, and for one with that label in any case
(`tapped_choice_is_saved`).
-/

namespace ChatFlow

open Step (Question QuestionData fitsButtons rowLabel)

/-! ### From labels to options -/

namespace Step.Question

variable {q : Question} {title o : String}

/-- The option that a label selects: the one that is equal to it if there is one, else the first that
has it. -/
theorem exists_selected (ho : o ∈ q.options) (hlabel : rowLabel o = title) :
    ∃ o', q.selected? title = some o' ∧ o' ∈ q.options ∧ rowLabel o' = title ∧
      (title ∈ q.options → o' = title) ∧
      (title ∉ q.options → q.options.find? (rowLabel · = title) = some o') := by
  by_cases hmem : title ∈ q.options
  · refine ⟨title, ?_, hmem, ?_, fun _ => rfl, fun h => absurd hmem h⟩
    · rw [selected?, if_pos (by simpa using hmem)]
    · rw [← hlabel, rowLabel_rowLabel]
  · have hlist : ¬ fitsButtons q.options := fun hfits => by
      rw [rowLabel_eq_of_fitsButtons hfits ho] at hlabel
      exact hmem (hlabel ▸ ho)
    obtain ⟨o', hfind⟩ : ∃ o', q.options.find? (rowLabel · = title) = some o' := by
      rw [← Option.isSome_iff_exists, List.find?_isSome]
      exact ⟨o, ho, by simpa using hlabel⟩
    refine ⟨o', ?_, List.mem_of_find?_eq_some hfind, by simpa using List.find?_some hfind,
      fun h => absurd h hmem, fun _ => hfind⟩
    rw [selected?, if_neg (by simpa using hmem), if_neg hlist, ← hfind]
    rfl

theorem getElem?_of_rowLabel {options : List String} {i : Nat}
    (hnd : (options.map rowLabel).Nodup) (ho : o ∈ options) (hlabel : rowLabel o = title)
    (hi : (options.map rowLabel)[i]? = some title) : options[i]? = some o := by
  obtain ⟨j, hj⟩ := List.getElem?_of_mem ho
  have hj' : (options.map rowLabel)[j]? = some title := by
    rw [List.getElem?_map, hj, Option.map_some, hlabel]
  obtain ⟨hlt, -⟩ := List.getElem?_eq_some_iff.1 hi
  rw [(List.getElem?_inj hlt hnd).1 (hi.trans hj'.symm), hj]

end Step.Question

namespace Turn

variable {κ : Type} {t : Turn κ} {r : Rules} {n : Node} {d : QuestionData} {reply o : String}

/-- An option is taken as the answer to a question: it is kept where the question says, the count of
wrong answers starts over, and the question does not wait any longer. -/
def takeOption (t : Turn κ) (n : Node) (d : QuestionData) (option : String) : Progress κ :=
  (.ok (n.after? .validAnswer), t.modify fun s =>
    let s := { s with waiting := none, invalidAttempts := s.invalidAttempts.erase n.label }
    match d.saveResponse with
    | some target => s.save target option
    | none => s)

theorem answer_of_selected (hd : n.read QuestionData.decode = .ok d)
    (hform : d.question.form = .multiple) (hs : d.question.selected? reply = some o) :
    t.answer r n reply = t.takeOption n d o := by
  have haccepts : d.question.accepts reply = .ok true := by simp [Question.accepts, hform, hs]
  have hkept : d.question.kept reply = o := by simp [Question.kept, hform, hs]
  simp only [answer, hd, haccepts, take, hkept]
  rfl

theorem resume_of_selected {w : Workflow} (out : Outside κ) (hd : n.read QuestionData.decode = .ok d)
    (hform : d.question.form = .multiple) (hs : d.question.selected? reply = some o)
    (hq : w.question? t.session.waiting = some n) :
    ∃ hn, t.resume out w r reply =
      (t.takeOption n d o).2.runFrom out w r (n.after? .validAnswer) hn := by
  have ha : t.answer r n reply = t.takeOption n d o := answer_of_selected hd hform hs
  rw [resume_of_some hq]
  have hmem := Workflow.mem_of_question? hq
  cases hnext : n.after? .validAnswer with
  | none =>
    have hnone : t.answer r n reply = (.ok none, (t.takeOption n d o).2) := by
      rw [ha, takeOption, hnext]
    exact ⟨nofun, judge_of_none hmem hnone⟩
  | some m =>
    have hsome : t.answer r n reply = (.ok (some m), (t.takeOption n d o).2) := by
      rw [ha, takeOption, hnext]
    exact ⟨fun m' h => by cases h; exact mem_of_answer hmem hsome, judge_of_some hmem hsome⟩

theorem execute_of_sent {out : Outside κ} {w : Workflow} (hk : n.kind = .question)
    (hd : n.read QuestionData.decode = .ok d)
    (hsent : (out.send t.world
      ⟨t.session.id, r.prompt d.question (t.session.fill d.question.text)⟩).1 = .ok ()) :
    (t.execute out w r n).1 = .ok none ∧
      (t.execute out w r n).2.session = { t.session with waiting := n.id } ∧
      (t.execute out w r n).2.messages = t.messages ++
        [⟨t.session.id, r.prompt d.question (t.session.fill d.question.text)⟩] := by
  generalize hc : r.prompt d.question (t.session.fill d.question.text) = content at hsent
  obtain ⟨t', hsend⟩ : ∃ t', t.send out content = (.ok (), t') := by
    unfold send
    dsimp only
    split
    · exact ⟨_, rfl⟩
    · rename_i heq; rw [heq] at hsent; cases hsent
  have hsession : t'.session = t.session := by
    have := session_send t out content
    rwa [hsend] at this
  have hask : t.execute out w r n = (.ok none, t'.modify fun s => { s with waiting := n.id }) := by
    simp only [execute, hk, ask, hd, hc, hsend]
  rw [hask]
  exact ⟨rfl, congrArg (fun s : Session => { s with waiting := n.id }) hsession,
    (messages_of_send hsend :)⟩

end Turn

variable {κ ε σ : Type} {c : Channel κ σ} {a : Graph.Account} {n : Node} {d : QuestionData}

/-- What a customer taps is what is saved. A question with options that are not empty is sent as one
payload, which nothing but its delivery can fail; if the provider accepts it, the conversation waits
for the answer. The payload offers each option under its label, and buttons show it in full. A tap
on any of these titles, reported as a button or as a row, is found as one message with that text; it
resumes the conversation as a valid answer, and what is saved is an option with that label: the one
that is equal to it, else the first. If no two labels are the same, it is the option that was tapped. -/
theorem tapped_choice_is_saved (ha : c.client = .account a) (fetch : Service.Fetch ε) (r : Rules)
    (w : Workflow) (hk : n.kind = .question) (hd : n.read QuestionData.decode = .ok d)
    (hform : d.question.form = .multiple) (hne : d.question.options ≠ [])
    (hfull : "" ∉ d.question.options) (t : Turn (Service.World κ ε σ)) :
    let options := d.question.options
    let out := Service.outside c fetch
    let text := t.session.fill d.question.text
    let prompt : Outbound := ⟨t.session.id, r.prompt d.question text⟩
    let payload := r.offer options t.session.id text
    c.Posts prompt payload ∧
      Graph.choices payload = options.map rowLabel ∧
      (fitsButtons options → Graph.choices payload = options) ∧
      (Graph.Accepts a c.wire t.world.channel.wire payload →
        (t.execute out w r n).1 = .ok none ∧
        (t.execute out w r n).2.session = { t.session with waiting := n.id } ∧
        (t.execute out w r n).2.messages = t.messages ++ [prompt]) ∧
      ∀ (i : Nat) (title : String), (Graph.choices payload)[i]? = some title → ∀ tap : Tap,
        ∃ m, Inbox.extract (tap.batch title) = (.ok [m], []) ∧ m.conversation = tap.sender ∧
          ∀ u : Turn (Service.World κ ε σ), ∃ o,
            u.answer r n m.text = u.takeOption n d o ∧
            (w.question? u.session.waiting = some n → ∃ hn, u.resume out w r m.text =
              (u.takeOption n d o).2.runFrom out w r (n.after? .validAnswer) hn) ∧
            o ∈ options ∧ rowLabel o = title ∧
            (title ∈ options → o = title) ∧
            (title ∉ options → options.find? (rowLabel · = title) = some o) ∧
            ((options.map rowLabel).Nodup → options[i]? = some o) := by
  intro options out text prompt payload
  have hposts : c.Posts prompt payload := Rules.posts_offer ha r hform hne t.session.id text
  have hlabels : Graph.choices payload = options.map rowLabel :=
    r.choices_offer options t.session.id text
  refine ⟨hposts, hlabels, r.choices_offer_of_fitsButtons t.session.id text, fun hacc => ?_,
    fun i title hi tap => ?_⟩
  · obtain ⟨id, hid⟩ := hposts.send ha hacc
    refine Turn.execute_of_sent hk hd ?_
    change Except.map _ (c.send t.world.channel prompt).1 = _
    rw [hid]
    rfl
  · rw [hlabels] at hi
    obtain ⟨option, hoption, hlabel⟩ := List.mem_map.1 (List.mem_of_getElem? hi)
    have htitle : title ≠ "" := by
      rw [← hlabel]
      exact Step.rowLabel_ne_empty fun h => hfull (h ▸ hoption)
    obtain ⟨m, hextract, hsender, rfl⟩ := tap.exists_extract htitle
    obtain ⟨o, hselected, ho, hlabel, hequal, hfirst⟩ :=
      Step.Question.exists_selected hoption hlabel
    exact ⟨m, hextract, hsender, fun u => ⟨o, Turn.answer_of_selected hd hform hselected,
      Turn.resume_of_selected out hd hform hselected, ho, hlabel, hequal, hfirst,
      fun hnd => Step.Question.getElem?_of_rowLabel hnd ho hlabel hi⟩⟩

/-- Three options go out as a list. The title of the first is cut, and tapping it saves all of it. -/
theorem tapped_choice_is_saved_in_full :
    let options := ["Standing area near the stage", "Upper balcony", "VIP"]
    let n : Node := ⟨some "1", .question, [
      ("question", .obj [("type", .str "multiple"), ("text", .str "Where?"),
        ("options", .arr (options.map .str))]),
      ("saveResponse", .obj [("hasVariable", .bool true), ("variable", .str "area")])], []⟩
    let r : Rules := ⟨3, 3, Rules.standardListButton⟩
    let reply : Endpoint.Reply := ⟨200, [], Text.utf8 "\x7b\x7d"⟩
    let c : Channel Unit Unit := ⟨.account ⟨some "token", some "1234", Graph.standardUrl⟩,
      ⟨fun _ _ => (.answered reply, ()), fun _ => none⟩, .discard, Channel.standardName⟩
    let out := Service.outside c fun s _ => (none, s)
    let t : Turn (Service.World Unit Unit Unit) :=
      Turn.start (Session.start (.ofInt 0) "966500000001" "Ada") ⟨⟨(), (), ""⟩, ()⟩
    let tap : Tap := ⟨false, "opt_0", "966500000001", "Ada", "wamid.1", "1700000000", "1234",
      by decide, ⟨some "2023-11-14T22:13:20+00:00", by rfl⟩⟩
    let payload := r.offer options "966500000001" "Where?"
    Graph.choices payload = ["Standing area near the s", "Upper balcony", "VIP"] ∧
      (t.execute out ⟨n, [], "seats", nofun⟩ r n).2.session.waiting = some "1" ∧
      ∃ m, Inbox.extract (tap.batch "Standing area near the s") = (.ok [m], []) ∧
        (t.answer r n m.text).2.session.vars = [("area", "Standing area near the stage")] := by
  intro options n r reply c out t tap payload
  let d : QuestionData := ⟨⟨.multiple, "Where?", options, none⟩, some ⟨true, some "area", false, none⟩⟩
  have hd : n.read QuestionData.decode = .ok d := rfl
  have hlabels : options.map rowLabel = ["Standing area near the s", "Upper balcony", "VIP"] := by
    decide +kernel
  have hfill : t.session.fill d.question.text = "Where?" := by decide +kernel
  have hall := tapped_choice_is_saved (c := c) (n := n) rfl (fun s _ => (none, s)) r
    ⟨n, [], "seats", nofun⟩ rfl hd rfl (by decide) (by decide) t
  rw [hfill] at hall
  obtain ⟨-, hchoices, -, hasked, htaps⟩ := hall
  rw [hchoices, hlabels] at htaps
  obtain ⟨m, hextract, -, hsaved⟩ := htaps 0 "Standing area near the s" rfl tap
  obtain ⟨o, hanswer, -, -, -, -, -, ho⟩ := hsaved t
  have haccepts : Graph.Accepts ⟨some "token", some "1234", Graph.standardUrl⟩ c.wire () payload := by
    obtain ⟨url, hurl, habs⟩ := Option.map_eq_some_iff.1 (show (Endpoint.Address.ofText
        (Graph.Account.url ⟨some "token", some "1234", Graph.standardUrl⟩)).toOption.map
          (·.isAbsolute) = some true by decide +kernel)
    have hpost : Graph.Post.ofPayload ⟨some "token", some "1234", Graph.standardUrl⟩ payload =
        .ok _ :=
      Graph.Post.ofPayload_eq_ok hurl
        (by decide +kernel) (Json.encode_eq_ok (by decide +kernel) (by decide +kernel))
    have hbytes : reply.bytes = .ok [123, 125] := by
      have hutf : reply.body = [123, 125] := by decide +kernel
      rw [Endpoint.Reply.bytes, show reply.encodings = [""] by cbv, hutf]
      rfl
    have hdata : Graph.answerData c.wire.codecs reply [123, 125] = .ok (.obj []) := by
      rw [Graph.answerData, Endpoint.Reply.data, show Json.readBody [123, 125] = .ok (.obj []) by rfl]
    exact ⟨_, reply, (), [123, 125], .obj [], .null, hpost, habs, rfl, rfl, hbytes, hdata, rfl⟩
  have hwaiting := (hasked haccepts).2.1
  refine ⟨hchoices.trans hlabels, by rw [hwaiting], m, hextract, ?_⟩
  have hoption : some "Standing area near the stage" = some o := ho (by decide +kernel)
  cases hoption
  rw [hanswer]
  rfl

end ChatFlow
