import ChatFlow.Agent
import ChatFlow.Proofs.Choice.Selection
import ChatFlow.Proofs.Graph.Outcome
import ChatFlow.Proofs.Inbox.Accounting

/-!
# What is kept of a message that went out

After a message has gone out, its id is looked up in the answer, and what is to be kept of it in the
message itself; only then it is offered to the archive. Each of the two fails for data of another shape
than is taken for granted (`Graph.TellsId`, `Content.HasText`), and the message is treated as if it had
not gone out; a failing archive makes no difference (`delivery_is_recorded_iff`).
-/

namespace ChatFlow

open Step (QuestionData)

/-! ### Ids of messages -/

namespace Graph

/-- An answer in which an id can be looked up: an object whose `messages` are a list, a text or
nothing. -/
def TellsId : Json → Prop
  | .obj fields => ∀ v, Assoc.get? fields "messages" = some v →
      v.isEmpty ∨ (∃ vs, v = .arr vs) ∨ ∃ s, v = .str s
  | _ => False

/-- The id of the first of some messages. -/
def firstId : Json → Except Fault Json
  | .obj _ => .error .missingKey
  | v => do match ← v.itemAt? 0 with
    | some (.obj m) => return (Assoc.get? m "id").getD .null
    | _ => return .null

theorem messageId_obj (fields : Assoc Json) : messageId (.obj fields) =
    firstId (((Assoc.get? fields "messages").getD .null).ifEmpty (.arr [])) := by
  rw [messageId, Json.member]
  show (match ((Assoc.get? fields "messages").getD .null).ifEmpty (.arr []) with
    | .obj _ => _ | _ => _) = _
  unfold firstId
  rfl

theorem exists_firstId_iff {v : Json} :
    (∃ id, firstId v = .ok id) ↔ (∃ vs, v = .arr vs) ∨ ∃ s, v = .str s := by
  have hitem {u : Json} {item : Option Json} (h : u.itemAt? 0 = .ok item)
      (hobj : ∀ fs, u ≠ .obj fs) : ∃ id, firstId u = .ok id := by
    rw [firstId, h]
    · match item with
      | some (.obj m) => exact ⟨_, rfl⟩
      | none | some .null | some (.bool _) | some (.int _) | some (.float _) | some (.str _)
      | some (.arr _) => exact ⟨_, rfl⟩
    · exact hobj
  cases v with
  | arr vs => exact iff_of_true (hitem rfl nofun) (Or.inl ⟨vs, rfl⟩)
  | str s => exact iff_of_true (hitem rfl nofun) (Or.inr ⟨s, rfl⟩)
  | _ =>
    exact iff_of_false (by rintro ⟨_, h⟩; cases h) (by rintro (⟨_, h⟩ | ⟨_, h⟩) <;> cases h)

theorem exists_messageId_iff {answer : Json} :
    (∃ id, messageId answer = .ok id) ↔ TellsId answer := by
  cases answer with
  | obj fields =>
    rw [messageId_obj, exists_firstId_iff, TellsId]
    cases Assoc.get? fields "messages" with
    | none => exact iff_of_true (Or.inl ⟨[], rfl⟩) (by rintro v ⟨⟩)
    | some v =>
      simp only [Option.getD_some, Option.some.injEq, forall_eq', Json.ifEmpty]
      by_cases hempty : v.isEmpty
      · rw [if_pos hempty]
        exact iff_of_true (Or.inl ⟨[], rfl⟩) (Or.inl hempty)
      · rw [if_neg hempty, or_iff_right hempty]
  | _ => exact iff_of_false (by rintro ⟨_, h⟩; cases h) id

theorem TellsId.exists_obj {answer : Json} (h : TellsId answer) : ∃ fields, answer = .obj fields := by
  cases answer with
  | obj fields => exact ⟨fields, rfl⟩
  | _ => cases h

end Graph

/-! ### Messages of the bot -/

namespace Content

/-- What the client is asked to send; nothing, if there are no options or too many for buttons. -/
def draft? : Content → Option Graph.Draft
  | .text t => some (.text t false)
  | .buttons t options =>
    if options.isEmpty || options.length > Step.maxButtons then none
    else some (.buttons t (options.zipIdx.map fun (o, i) => Channel.optionButton o i) none)
  | .list interactive => some (.list (.obj interactive))

/-- What is kept of a message. -/
def kept : Content → Except Fault Json
  | .text t => .ok (.str t)
  | .buttons t options => .ok (.str (t ++ "\n" ++ " | ".intercalate options))
  | .list interactive => Channel.listText interactive

/-- A message of which something can be kept. Of a list it can if its `body` is an object or nothing. -/
def HasText : Content → Prop
  | .list interactive => ∀ v, Assoc.get? interactive "body" = some v → v.isEmpty ∨ ∃ fs, v = .obj fs
  | _ => True

theorem exists_kept_iff {m : Content} : (∃ content, m.kept = .ok content) ↔ m.HasText := by
  cases m with
  | text t => exact iff_of_true ⟨_, rfl⟩ trivial
  | buttons t options => exact iff_of_true ⟨_, rfl⟩ trivial
  | list interactive =>
    rw [kept, Channel.listText, HasText]
    show (∃ content, (do
      let body ← Except.ok (((Assoc.get? interactive "body").getD .null).ifEmpty (.obj []))
      return (← body.member "text").ifEmpty (.str "[Interactive List]")) = .ok content) ↔ _
    cases Assoc.get? interactive "body" with
    | none => exact iff_of_true ⟨_, rfl⟩ (by rintro v ⟨⟩)
    | some v =>
      simp only [Option.getD_some, Option.some.injEq, forall_eq', Json.ifEmpty]
      by_cases hempty : v.isEmpty
      · rw [if_pos hempty]
        exact iff_of_true ⟨_, rfl⟩ (Or.inl hempty)
      · rw [if_neg hempty, or_iff_right hempty]
        cases v with
        | obj fs => exact iff_of_true ⟨_, rfl⟩ ⟨fs, rfl⟩
        | _ => exact iff_of_false (by rintro ⟨_, h⟩; cases h) (by rintro ⟨_, h⟩; cases h)

end Content

namespace Channel

variable {κ σ : Type} {c : Channel κ σ} {w : World κ σ} {m : Outbound}

/-- A channel whose archive writes down what it is asked to keep. -/
def traced (c : Channel κ σ) : Channel κ (σ × List Attempt) := { c with archive := c.archive.traced }

/-- The world of such a channel, before anything is written down. -/
def World.traced (w : World κ σ) : World κ (σ × List Attempt) := { w with records := (w.records, []) }

/-- What the archive is offered when a message is sent. -/
def offered (c : Channel κ σ) (w : World κ σ) (m : Outbound) : List Attempt :=
  (c.traced.send w.traced m).2.2.records.2

/-- The attempt to keep a message of the bot. -/
def attempt (c : Channel κ σ) (w : World κ σ) (m : Outbound) (content id : Json) : Attempt :=
  ⟨w.now, m.recipient, outgoingRecord id "bot" m.recipient content c.name, none⟩

/-- A message goes out and is answered with status 200 and these data. -/
def Delivers (c : Channel κ σ) (w : World κ σ) (m : Outbound) (data : Except Fault Json) : Prop :=
  ∃ d, m.content.draft? = some d ∧ c.client.Delivers c.wire w.wire { phone := m.recipient } d data

theorem send_of_draft {d : Graph.Draft} (h : m.content.draft? = some d) (c : Channel κ σ)
    (w : World κ σ) : c.send w m = c.dispatch w m.recipient
      (fun wire s => c.client.send wire s { phone := m.recipient } d) m.content.kept := by
  obtain ⟨recipient, content⟩ := m
  cases content with
  | text t => cases h; rfl
  | list interactive => cases h; rfl
  | buttons t options =>
    simp only [Content.draft?] at h
    split at h <;> cases h
    rename_i hcount
    simp only [send, sendOptions]
    rw [if_neg hcount]
    rfl

theorem send_of_no_draft (h : m.content.draft? = none) (c : Channel κ σ) (w : World κ σ) :
    ∃ f, c.send w m = (.error f, [], w) := by
  obtain ⟨recipient, content⟩ := m
  cases content with
  | text t => cases h
  | list interactive => cases h
  | buttons t options =>
    simp only [Content.draft?] at h
    split at h <;> cases h
    rename_i hcount
    simp only [send, sendOptions]
    rw [if_pos hcount]
    exact ⟨_, rfl⟩

section

variable {send : Graph.Wire κ → κ → Graph.Sent κ Json} {content : Except Fault Json}

theorem dispatch_of_ok {answer id kept : Json} (hsend : (send c.wire w.wire).1 = .ok answer)
    (hid : Graph.messageId answer = .ok id) (hkept : content = .ok kept) (recipient : String) :
    (c.dispatch w recipient send content).1 = .ok id ∧
      (c.dispatch w recipient send content).2.2 =
        (c.keep { w with wire := (send c.wire w.wire).2.2 } recipient kept id).2 := by
  rcases hsent : send c.wire w.wire with ⟨result, log, wire⟩
  rw [hsent] at hsend
  cases hsend
  rw [dispatch, hsent, hkept]
  simp only [hid, and_self]

/-- A message fails and is not kept unless it was taken and its id and its content are known. -/
theorem dispatch_of_not_ok (h : ¬ ∃ answer id kept, (send c.wire w.wire).1 = .ok answer ∧
      Graph.messageId answer = .ok id ∧ content = .ok kept) (recipient : String) :
    (∃ f, (c.dispatch w recipient send content).1 = .error f) ∧
      (c.dispatch w recipient send content).2.2.records = w.records := by
  unfold dispatch
  split
  · exact ⟨⟨_, rfl⟩, rfl⟩
  · rename_i answer log wire hsent
    split
    · exact ⟨⟨_, rfl⟩, rfl⟩
    · exact ⟨⟨_, rfl⟩, rfl⟩
    · rename_i id kept hid
      exact absurd ⟨answer, id, kept, by rw [hsent], hid, rfl⟩ h

end

theorem records_keep_traced (w : World κ (σ × List Attempt)) (recipient : String)
    (content id : Json) : (c.traced.keep w recipient content id).2.records.2 =
      w.records.2 ++ [⟨w.now, recipient, outgoingRecord id "bot" recipient content c.name, none⟩] := by
  have htraced (record : Record) : c.traced.archive.append w.records w.now recipient record none =
      ((c.archive.append w.records.1 w.now recipient record none).1,
        (c.archive.append w.records.1 w.now recipient record none).2.1,
        (c.archive.append w.records.1 w.now recipient record none).2.2,
        w.records.2 ++ [⟨w.now, recipient, record, none⟩]) := rfl
  rw [keep, htraced]
  rcases c.archive.append w.records.1 w.now recipient _ none with ⟨f | _, log, s⟩ <;> rfl

/-- A message that went out, whose id and content are known, is offered to the archive once, and sending
it returns the id, whatever the archive does. -/
theorem send_of_delivers {answer id kept : Json} (h : c.Delivers w m (.ok answer))
    (hid : Graph.messageId answer = .ok id) (hkept : m.content.kept = .ok kept) :
    (c.send w m).1 = .ok id ∧ c.offered w m = [c.attempt w m kept id] := by
  obtain ⟨d, hd, hdelivers⟩ := h
  have hsend := Graph.Client.send_eq_ok_iff.2 hdelivers
  rw [offered, send_of_draft hd, send_of_draft hd]
  refine ⟨(dispatch_of_ok hsend hid hkept m.recipient).1, ?_⟩
  rw [(dispatch_of_ok (c := c.traced) (w := w.traced) hsend hid hkept m.recipient).2,
    records_keep_traced]
  rfl

/-- Sending any other message fails, and it is not offered to the archive. -/
theorem send_of_not_delivers (h : ¬ ∃ answer id kept, c.Delivers w m (.ok answer) ∧
      Graph.messageId answer = .ok id ∧ m.content.kept = .ok kept) :
    (∃ f, (c.send w m).1 = .error f) ∧ c.offered w m = [] := by
  rw [offered]
  cases hd : m.content.draft? with
  | none =>
    obtain ⟨f, hf⟩ := send_of_no_draft hd c w
    obtain ⟨g, hg⟩ := send_of_no_draft hd c.traced w.traced
    rw [hf, hg]
    exact ⟨⟨f, rfl⟩, rfl⟩
  | some d =>
    rw [send_of_draft hd, send_of_draft hd]
    have hnone : ¬ ∃ answer id kept,
        (c.client.send c.wire w.wire { phone := m.recipient } d).1 = .ok answer ∧
          Graph.messageId answer = .ok id ∧ m.content.kept = .ok kept :=
      fun ⟨answer, id, kept, hsend, hrest⟩ =>
        h ⟨answer, id, kept, ⟨d, hd, Graph.Client.send_eq_ok_iff.1 hsend⟩, hrest⟩
    exact ⟨(dispatch_of_not_ok hnone m.recipient).1,
      congrArg (·.2) (dispatch_of_not_ok (c := c.traced) (w := w.traced) hnone m.recipient).2⟩

/-- What a message needs to be treated as one that went out: the answer to it has status 200 and is one
in which an id can be looked up, and something can be kept of it. -/
def Completes (c : Channel κ σ) (w : World κ σ) (m : Outbound) : Prop :=
  ∃ answer, c.Delivers w m (.ok answer) ∧ Graph.TellsId answer ∧ m.content.HasText

theorem completes_iff : c.Completes w m ↔ ∃ answer id kept, c.Delivers w m (.ok answer) ∧
    Graph.messageId answer = .ok id ∧ m.content.kept = .ok kept := by
  simp only [Completes, ← Graph.exists_messageId_iff, ← Content.exists_kept_iff]
  exact ⟨fun ⟨answer, h, ⟨id, hid⟩, kept, hkept⟩ => ⟨answer, id, kept, h, hid, hkept⟩,
    fun ⟨answer, id, kept, h, hid, hkept⟩ => ⟨answer, h, ⟨id, hid⟩, kept, hkept⟩⟩

end Channel

/-! ### Messages of agents -/

namespace Agent

open ChatFlow.Graph (messageId)

variable {κ σ : Type} {c : Graph.Client} {wire : Graph.Wire κ} {a : Archive σ} {now : String} {k : κ}
  {s : σ} {recipient text : String}

/-- What the archive is offered when an agent sends a text. -/
def offered (c : Graph.Client) (wire : Graph.Wire κ) (a : Archive σ) (now : String) (k : κ) (s : σ)
    (recipient text : String) : List Attempt :=
  (send c wire a.traced now k (s, []) recipient text).2.2.2.2

/-- The attempt to keep a text of an agent. -/
def attempt (now recipient text : String) (id : Json) : Attempt :=
  ⟨now, plainNumber recipient, outgoingRecord id "employee" (plainNumber recipient) (.str text)
    "whatsapp_meta", none⟩

/-- A text of an agent goes out and is answered with status 200 and these data. -/
def Delivers (c : Graph.Client) (wire : Graph.Wire κ) (k : κ) (recipient text : String)
    (data : Except Fault Json) : Prop :=
  c.Delivers wire k { phone := plainNumber recipient } (.text text false) data

/-- What an agent is told about a text that went out. -/
def receipt (id answer : Json) : Except Fault Receipt :=
  match Receipt.of id answer with
  | .ok r => .ok r
  | .bad i is => .error (.invalid (i :: is))

theorem exists_receipt_iff {id : Json} (fields : Assoc Json) :
    (∃ r, receipt id (.obj fields) = .ok r) ↔ id = .null ∨ ∃ s, id = .str s := by
  cases id with
  | null => exact iff_of_true ⟨_, rfl⟩ (Or.inl rfl)
  | str s => exact iff_of_true ⟨_, rfl⟩ (Or.inr ⟨s, rfl⟩)
  | _ => exact iff_of_false (by rintro ⟨_, h⟩; cases h) (by rintro (h | ⟨_, h⟩) <;> cases h)

theorem send_of_ok {answer id : Json} (hsend : (c.sendText wire k
      { phone := plainNumber recipient } text).1 = .ok answer) (hid : messageId answer = .ok id)
    (a : Archive σ) (now : String) (s : σ) :
    (send c wire a now k s recipient text).1 = receipt id answer ∧
      (send c wire a now k s recipient text).2.2.2 = (a.append s now (plainNumber recipient)
        (outgoingRecord id "employee" (plainNumber recipient) (.str text) "whatsapp_meta")
          none).2.2 := by
  rcases hsent : c.sendText wire k { phone := plainNumber recipient } text with ⟨result, log, k'⟩
  rw [hsent] at hsend
  cases hsend
  rw [send, hsent]
  simp only [hid, receipt]
  rcases a.append s now (plainNumber recipient) _ none with ⟨f | _, more, s'⟩ <;>
    cases Receipt.of id answer <;> exact ⟨rfl, rfl⟩

theorem send_of_not_ok (h : ¬ ∃ answer id, (c.sendText wire k
      { phone := plainNumber recipient } text).1 = .ok answer ∧ messageId answer = .ok id)
    (a : Archive σ) (now : String) (s : σ) :
    (∃ f, (send c wire a now k s recipient text).1 = .error f) ∧
      (send c wire a now k s recipient text).2.2.2 = s := by
  unfold send
  dsimp only
  split
  · exact ⟨⟨_, rfl⟩, rfl⟩
  · rename_i answer log k' hsent
    split
    · exact ⟨⟨_, rfl⟩, rfl⟩
    · rename_i id hid
      exact absurd ⟨answer, id, by rw [hsent], hid⟩ h

theorem send_of_delivers {answer id : Json} (h : Delivers c wire k recipient text (.ok answer))
    (hid : messageId answer = .ok id) (a : Archive σ) (now : String) (s : σ) :
    (send c wire a now k s recipient text).1 = receipt id answer ∧
      offered c wire a now k s recipient text = [attempt now recipient text id] := by
  have hsend := Graph.Client.send_eq_ok_iff.2 h
  exact ⟨(send_of_ok hsend hid a now s).1, congrArg (·.2) (send_of_ok hsend hid a.traced now _).2⟩

theorem send_of_not_delivers (h : ¬ ∃ answer id, Delivers c wire k recipient text (.ok answer) ∧
      messageId answer = .ok id) (a : Archive σ) (now : String) (s : σ) :
    (∃ f, (send c wire a now k s recipient text).1 = .error f) ∧
      offered c wire a now k s recipient text = [] := by
  have hnone : ¬ ∃ answer id, (c.sendText wire k
      { phone := plainNumber recipient } text).1 = .ok answer ∧ messageId answer = .ok id :=
    fun ⟨answer, id, hsend, hid⟩ => h ⟨answer, id, Graph.Client.send_eq_ok_iff.1 hsend, hid⟩
  exact ⟨(send_of_not_ok hnone a now s).1, congrArg (·.2) (send_of_not_ok hnone a.traced now _).2⟩

end Agent

/-! ### Questions -/

theorem Turn.execute_of_refused {κ : Type} {t : Turn κ} {out : Outside κ} {w : Workflow} {r : Rules}
    {n : Node} {d : QuestionData} {f : Fault} (hk : n.kind = .question)
    (hd : n.read QuestionData.decode = .ok d)
    (hrefused : (out.send t.world
      ⟨t.session.id, r.prompt d.question (t.session.fill d.question.text)⟩).1 = .error f) :
    (t.execute out w r n).1 = .error f ∧ (t.execute out w r n).2.session = t.session := by
  have hsession := session_send t out (r.prompt d.question (t.session.fill d.question.text))
  have hsend : (t.send out (r.prompt d.question (t.session.fill d.question.text))).1 = .error f := by
    unfold send
    dsimp only
    split <;> rename_i heq <;> rw [heq] at hrefused
    · cases hrefused
    · exact hrefused
  simp only [execute, hk, ask, hd]
  split <;> rename_i heq <;> rw [heq] at hsend hsession
  · cases hsend
    exact ⟨rfl, hsession⟩
  · cases hsend

theorem Service.send_outside {κ ε σ : Type} (c : Channel κ σ) (fetch : Fetch ε) (w : World κ ε σ)
    (m : Outbound) : ((outside c fetch).send w m).1 = (c.send w.channel m).1.map fun _ => () := rfl

namespace Channel

variable {κ ε σ : Type}

/-- When a message that went out is treated as one. A message of the bot that the provider has taken,
with an answer in which an id can be looked up, and of which something can be kept is offered to the
archive once, and sending it returns the id, whatever the archive does; any other message fails and is
not offered, though it may have gone out. A text of an agent that the provider has taken is offered
once if an id can be looked up in the answer, and then sending it succeeds exactly if the id is a text
or absent; any other text fails and is not offered. So the conversation waits for the answer to a
question whose prompt is of the first kind, and does not wait for it after any other prompt. -/
theorem delivery_is_recorded_iff (c : Channel κ σ) (w : World κ σ) :
    (∀ m : Outbound,
      (c.Completes w m → ∃ answer id kept, c.Delivers w m (.ok answer) ∧
        Graph.messageId answer = .ok id ∧ m.content.kept = .ok kept ∧ (c.send w m).1 = .ok id ∧
        c.offered w m = [c.attempt w m kept id]) ∧
      (¬ c.Completes w m → (∃ f, (c.send w m).1 = .error f) ∧ c.offered w m = [])) ∧
    (∀ recipient text : String,
      let sent := Agent.send c.client c.wire c.archive w.now w.wire w.records recipient text
      let offered := Agent.offered c.client c.wire c.archive w.now w.wire w.records recipient text
      (∀ answer, Agent.Delivers c.client c.wire w.wire recipient text (.ok answer) →
        Graph.TellsId answer → ∃ id, Graph.messageId answer = .ok id ∧
          offered = [Agent.attempt w.now recipient text id] ∧
          ((∃ receipt, sent.1 = .ok receipt) ↔ id = .null ∨ ∃ s, id = .str s)) ∧
      ((¬ ∃ answer, Agent.Delivers c.client c.wire w.wire recipient text (.ok answer) ∧
        Graph.TellsId answer) → (∃ f, sent.1 = .error f) ∧ offered = [])) ∧
    ∀ (fetch : Service.Fetch ε) (wf : Workflow) (r : Rules) (t : Turn (Service.World κ ε σ))
      (n : Node) (d : QuestionData), n.kind = .question → n.read QuestionData.decode = .ok d →
      let m : Outbound := ⟨t.session.id, r.prompt d.question (t.session.fill d.question.text)⟩
      let p := t.execute (Service.outside c fetch) wf r n
      (c.Completes t.world.channel m →
        p.1 = .ok none ∧ p.2.session = { t.session with waiting := n.id }) ∧
      (¬ c.Completes t.world.channel m → (∃ f, p.1 = .error f) ∧ p.2.session = t.session) := by
  have hcompletes {w : World κ σ} {m : Outbound} (h : c.Completes w m) :
      ∃ answer id kept, c.Delivers w m (.ok answer) ∧ Graph.messageId answer = .ok id ∧
        m.content.kept = .ok kept ∧ (c.send w m).1 = .ok id ∧
        c.offered w m = [c.attempt w m kept id] := by
    obtain ⟨answer, id, kept, h, hid, hkept⟩ := completes_iff.1 h
    exact ⟨answer, id, kept, h, hid, hkept, send_of_delivers h hid hkept⟩
  have hfails {w : World κ σ} {m : Outbound} (h : ¬ c.Completes w m) :
      (∃ f, (c.send w m).1 = .error f) ∧ c.offered w m = [] :=
    send_of_not_delivers (completes_iff.not.1 h)
  refine ⟨fun m => ⟨hcompletes, hfails⟩, fun recipient text => ⟨fun answer h htells => ?_, fun h => ?_⟩,
    fun fetch wf r t n d hk hd => ⟨fun h => ?_, fun h => ?_⟩⟩
  · obtain ⟨id, hid⟩ := Graph.exists_messageId_iff.2 htells
    obtain ⟨fields, rfl⟩ := htells.exists_obj
    obtain ⟨hsent, hoffered⟩ := Agent.send_of_delivers h hid c.archive w.now w.records
    refine ⟨id, hid, hoffered, ?_⟩
    rw [hsent]
    exact Agent.exists_receipt_iff fields
  · refine Agent.send_of_not_delivers (fun ⟨answer, id, hdelivers, hid⟩ => ?_) ..
    exact h ⟨answer, hdelivers, Graph.exists_messageId_iff.1 ⟨id, hid⟩⟩
  · obtain ⟨answer, id, kept, -, -, -, hsent, -⟩ := hcompletes h
    have htaken : ((Service.outside c fetch).send t.world ⟨t.session.id,
        r.prompt d.question (t.session.fill d.question.text)⟩).1 = .ok () := by
      rw [Service.send_outside, hsent]; rfl
    obtain ⟨hnext, hsession, -⟩ := Turn.execute_of_sent hk hd htaken
    exact ⟨hnext, hsession⟩
  · obtain ⟨⟨f, hf⟩, -⟩ := hfails h
    have hrefused : ((Service.outside c fetch).send t.world ⟨t.session.id,
        r.prompt d.question (t.session.fill d.question.text)⟩).1 = .error f := by
      rw [Service.send_outside, hf]; rfl
    obtain ⟨hnext, hsession⟩ := Turn.execute_of_refused hk hd hrefused
    exact ⟨⟨f, hnext⟩, hsession⟩

/-! ### Answers of odd shapes -/

/-- A channel whose messages are all answered with status 200 and the same body. -/
def answering (body : String) : Channel Unit Unit :=
  ⟨.account ⟨some "token", some "1234", Graph.standardUrl⟩,
    ⟨fun _ _ => (.answered ⟨200, [], Text.utf8 body⟩, ()), fun _ => none⟩, .discard, standardName⟩

theorem delivers_answering (body : String) {answer : Json} (hascii : Text.IsAscii body.toList)
    (hread : Json.read body = .ok answer) :
    (answering body).client.Delivers (answering body).wire () { phone := "966500000001" }
      (.text "hi" false) (.ok answer) := by
  let a : Graph.Account := ⟨some "token", some "1234", Graph.standardUrl⟩
  obtain ⟨post, hpost, habs⟩ : ∃ post, a.Posts { phone := "966500000001" } (.text "hi" false) post ∧
      post.url.isAbsolute :=
    Graph.Account.exists_posts trivial rfl
      (Json.encode_eq_ok (by decide +kernel) (by decide +kernel)) (by decide +kernel)
      (by decide +kernel)
  exact ⟨a, post, rfl, hpost, Graph.Post.outcome_of_read habs rfl rfl hascii hread⟩

/-- An answer that is a list, and one with a number for an id. With the first, the message and the
prompt of a question went out, but are not kept, and the question does not wait. With the second, the
message is kept, and so is the text of an agent, to whom sending it fails all the same. -/
theorem delivery_is_recorded_iff_odd_answers :
    let bare := answering "[]"
    let number := answering "\x7b\"messages\":[\x7b\"id\":7\x7d]\x7d"
    let w : World Unit Unit := ⟨(), (), ""⟩
    let m : Outbound := ⟨"966500000001", .text "hi"⟩
    let n : Node := ⟨some "1", .question,
      [("question", .obj [("type", .str "text"), ("text", .str "hi")])], []⟩
    let t : Turn (Service.World Unit Unit Unit) :=
      Turn.start (Session.start (.ofInt 0) "966500000001" "Ada") ⟨w, ()⟩
    (bare.Delivers w m (.ok (.arr [])) ∧ (∃ f, (bare.send w m).1 = .error f) ∧ bare.offered w m = []) ∧
      (t.execute (Service.outside bare fun e _ => (none, e)) ⟨n, [], "ask", nofun⟩
        ⟨3, 3, Rules.standardListButton⟩ n).2.session = t.session ∧
      ((number.send w m).1 = .ok (.int 7) ∧
        number.offered w m = [number.attempt w m (.str "hi") (.int 7)]) ∧
      Agent.offered number.client number.wire number.archive w.now w.wire w.records "966500000001"
        "hi" = [Agent.attempt w.now "966500000001" "hi" (.int 7)] ∧
      ¬ ∃ receipt, (Agent.send number.client number.wire number.archive w.now w.wire w.records
        "966500000001" "hi").1 = .ok receipt := by
  intro bare number w m n t
  have hlist : Json.read "[]" = .ok (.arr []) := by cbv
  have hbare := delivers_answering "[]" (by decide +kernel) hlist
  have hincomplete : ¬ bare.Completes w m := by
    rintro ⟨answer, ⟨d, hd, hdelivers⟩, htells, -⟩
    cases hd
    rw [← hbare.eq hdelivers] at htells
    exact htells
  obtain ⟨hbot, -, hask⟩ := delivery_is_recorded_iff (ε := Unit) bare w
  have hprompt : (t.execute (Service.outside bare fun e _ => (none, e)) ⟨n, [], "ask", nofun⟩
      ⟨3, 3, Rules.standardListButton⟩ n).2.session = t.session := by
    have hd : n.read QuestionData.decode = .ok ⟨⟨.text, "hi", [], none⟩, none⟩ := rfl
    have hfill : t.session.fill "hi" = "hi" := by decide +kernel
    refine ((hask _ _ _ t n _ rfl hd).2 ?_).2
    rw [hfill]
    exact hincomplete
  let answer : Json := .obj [("messages", .arr [.obj [("id", .int 7)]])]
  have hobject : Json.read "\x7b\"messages\":[\x7b\"id\":7\x7d]\x7d" = .ok answer := by cbv
  have hnumber := delivers_answering _ (by decide +kernel) hobject
  have htells : Graph.TellsId answer := fun v h => Or.inr (Or.inl ⟨_, (Option.some.inj h).symm⟩)
  have hid : Graph.messageId answer = .ok (.int 7) := rfl
  obtain ⟨hsend, hagent, -⟩ := delivery_is_recorded_iff (ε := Unit) number w
  obtain ⟨answer', id, kept, ⟨d, hd, hdelivers⟩, hid', hkept, hsent, hoffered⟩ :=
    (hsend m).1 ⟨answer, ⟨_, rfl, hnumber⟩, htells, trivial⟩
  cases hd
  cases hkept
  rw [← hnumber.eq hdelivers, hid] at hid'
  cases hid'
  have hplain : Agent.plainNumber "966500000001" = "966500000001" := by decide +kernel
  have htext : Agent.Delivers number.client number.wire w.wire "966500000001" "hi" (.ok answer) := by
    rw [Agent.Delivers, hplain]
    exact hnumber
  obtain ⟨id, hid', hkept, hreceipt⟩ := (hagent "966500000001" "hi").1 answer htext htells
  rw [hid] at hid'
  cases hid'
  refine ⟨⟨⟨_, rfl, hbare⟩, (hbot m).2 hincomplete⟩, hprompt, ⟨hsent, hoffered⟩, hkept, ?_⟩
  rw [hreceipt]
  rintro (h | ⟨_, h⟩) <;> cases h

end Channel

end ChatFlow
