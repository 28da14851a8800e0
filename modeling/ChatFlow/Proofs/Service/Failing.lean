import ChatFlow.Proofs.Graph.Outcome
import ChatFlow.Service

/-!
# Calls that fail

A call of the client fails with a message that was not delivered, as the endpoint for agents takes for
granted: it answers such a failure with an error body, and it breaks down at any other
(`sendOrder_of_error`). `failure_is_undelivered_iff` says for which outcomes of the request this is
so.
-/

namespace ChatFlow.Service

open ChatFlow.Graph (Account Draft Post errorInfo? errorMessage errorCode)

variable {κ ε σ : Type}

/-- The body that says why a message was not delivered. -/
def errorBody (message code : String) : Json :=
  .obj [("error", .str message), ("error_code", .str code)]

/-- The answer to an order whose message was not sent. -/
def failure : Fault → Response
  | .undelivered message code => refused 500 message [("error_code", .str code)]
  | _ => brokenDown

theorem json_of_isOk {v : Json} (h : v.encode.isOk) (status : Nat) :
    json v status = ⟨status, .json v⟩ := by
  rw [json]
  cases hv : v.encode with
  | error f => rw [hv] at h; cases h
  | ok written => rfl

theorem json_of_not_isOk {v : Json} (h : ¬ v.encode.isOk) (status : Nat) :
    json v status = brokenDown := by
  rw [json]
  cases hv : v.encode with
  | error f => rfl
  | ok written => rw [hv] at h; exact absurd rfl h

theorem failure_undelivered {message code : String} (h : (errorBody message code).encode.isOk) :
    failure (.undelivered message code) = ⟨500, .json (errorBody message code)⟩ :=
  json_of_isOk h 500

theorem failure_eq_brokenDown {f : Fault}
    (h : ∀ message code, f = .undelivered message code → ¬ (errorBody message code).encode.isOk) :
    failure f = brokenDown := by
  unfold failure
  split
  · rename_i message code
    exact json_of_not_isOk (h message code rfl) 500
  · rfl

theorem sendOrder_of_error (s : Service κ ε σ) (w : Channel.World κ σ) {phone text : String} {f : Fault}
    (hphone : phone ≠ "") (htext : text ≠ "")
    (h : (s.channel.client.send s.channel.wire w.wire { phone := Agent.plainNumber phone }
      (.text text false)).1 = .error f) :
    (s.sendOrder w ⟨some phone, some text, "text"⟩).1 = failure f := by
  have hfilter {t : String} (ht : t ≠ "") : (some t).filter (! ·.isEmpty) = some t := by
    rw [Option.filter_some, if_pos (by simpa [String.isEmpty_iff] using ht)]
  simp only [sendOrder, hfilter hphone, hfilter htext, if_true]
  rw [Graph.Client.send] at h
  rcases hsent : s.channel.client.sendText s.channel.wire w.wire { phone := Agent.plainNumber phone }
    text with ⟨result, log, wire⟩
  rw [hsent] at h
  cases h
  rw [Agent.send, hsent]
  cases f <;> rfl

/-- How calls fail. A call whose request leaves the account succeeds exactly if the request is answered
with status 200 and the answer can be read. It fails with a message that was not delivered if the
request is lost, under the code `transport`, or if it is refused by an object with an object under
`error` or with nothing there, under the code that stands in it or `unknown`. It fails in no other way
exactly if the outcome is regular, which leaves out an answer that cannot be read and a refusal of
another shape. The endpoint for agents answers a message that was not delivered with its error body,
if that has an encoding, and breaks down at all other failures. -/
theorem failure_is_undelivered_iff (s : Service κ ε σ) (w : Channel.World κ σ) {a : Account}
    (ha : s.channel.client = .account a) {recipient : Graph.Recipient} {d : Draft} {post : Post}
    (hpost : a.Posts recipient d post) :
    let outcome := post.outcome s.channel.wire.codecs (s.channel.wire.post w.wire post).1
    let result := (s.channel.client.send s.channel.wire w.wire recipient d).1
    (∀ answer, result = .ok answer ↔ outcome = .answered 200 (.ok answer)) ∧
      (∀ message code, result = .error (.undelivered message code) ↔
        (∃ reason, outcome = .lost reason ∧ message = "Exception sending " ++ d.what ++ " to " ++
          recipient.phone ++ ": " ++ reason ∧ code = "transport") ∨
        ∃ status data info, outcome = .answered status (.ok data) ∧ status ≠ 200 ∧
          errorInfo? data = some info ∧ message = errorMessage info ∧ code = errorCode info) ∧
      ((∀ f, result = .error f → ∃ message code, f = .undelivered message code) ↔
        outcome.IsRegular) ∧
      ∀ phone text, phone ≠ "" → text ≠ "" → recipient = { phone := Agent.plainNumber phone } →
        d = .text text false → ∀ f, result = .error f →
          let response := (s.sendOrder w ⟨some phone, some text, "text"⟩).1
          (∀ message code, f = .undelivered message code → (errorBody message code).encode.isOk →
            response = ⟨500, .json (errorBody message code)⟩) ∧
          ((∀ message code, f = .undelivered message code →
            ¬ (errorBody message code).encode.isOk) → response = brokenDown) := by
  intro outcome result
  have hresult : result = outcome.result d.what recipient.phone := by
    show (s.channel.client.send _ _ recipient d).1 = _
    rw [ha]
    exact Graph.Client.result_send hpost ..
  have hread := post.outcome_ne_undelivered s.channel.wire.codecs (s.channel.wire.post w.wire post).1
  refine ⟨fun answer => ?_, fun message code => ?_, ?_, ?_⟩
  · rw [hresult]
    exact Graph.Outcome.result_eq_ok_iff
  · rw [hresult]
    exact Graph.Outcome.result_eq_undelivered_iff fun status => hread status message code
  · rw [hresult]
    exact (Graph.Outcome.isRegular_iff hread).symm
  · rintro phone text hphone htext rfl rfl f hf response
    have hresponse : response = failure f := s.sendOrder_of_error w hphone htext hf
    rw [hresponse]
    exact ⟨fun message code heq hencode => by rw [heq]; exact failure_undelivered hencode,
      failure_eq_brokenDown⟩

/-- A refusal that is a list. The call does not fail as a message that was not delivered, and the
endpoint breaks down. -/
theorem failure_is_undelivered_iff_bare_list :
    let reply : Endpoint.Reply := ⟨500, [], Text.utf8 "[\"no\"]"⟩
    let a : Account := ⟨some "token", some "1234", Graph.standardUrl⟩
    let settings : Settings := ⟨"Golden Host", "", "dev", "INFO", "", "token", "1234", "",
      Graph.standardUrl, none, none, 30, 10, 0, Rules.standardListButton, 300, 15⟩
    let s : Service Unit Unit Unit := ⟨settings,
      ⟨.account a, ⟨fun _ _ => (.answered reply, ()), fun _ => none⟩, .discard, Channel.standardName⟩,
      fun e _ => (none, e), ⟨⟨none, .other "Trigger", [], []⟩, [], "empty", nofun⟩,
      ⟨fun _ _ => "", fun _ _ _ => by rfl⟩⟩
    let w : Channel.World Unit Unit := ⟨(), (), ""⟩
    let result := (s.channel.client.send s.channel.wire () { phone := "966500000001" }
      (.text "hi" false)).1
    (∃ post, a.Posts { phone := "966500000001" } (.text "hi" false) post ∧
        post.outcome s.channel.wire.codecs (.answered reply) = .answered 500 (.ok (.arr [.str "no"]))) ∧
      (¬ ∀ f, result = .error f → ∃ message code, f = .undelivered message code) ∧
      (s.sendOrder w ⟨some "966500000001", some "hi", "text"⟩).1 = brokenDown := by
  intro reply a settings s w result
  have hread : Json.read "[\"no\"]" = .ok (.arr [.str "no"]) := by cbv
  obtain ⟨post, hpost, habs⟩ : ∃ post, a.Posts { phone := "966500000001" } (.text "hi" false) post ∧
      post.url.isAbsolute :=
    Account.exists_posts trivial rfl (Json.encode_eq_ok (by decide +kernel) (by decide +kernel))
      (by decide +kernel) (by decide +kernel)
  have houtcome : post.outcome s.channel.wire.codecs (.answered reply) = .answered 500 (.ok (.arr [.str "no"])) :=
    Post.outcome_of_read habs rfl rfl (by decide +kernel) hread
  obtain ⟨-, -, hregular, hendpoint⟩ := failure_is_undelivered_iff s w rfl hpost
  have hirregular : ¬ ∀ f, result = .error f → ∃ message code, f = .undelivered message code := by
    intro h
    have h200 := hregular.1 h
    rw [houtcome] at h200
    rcases h200 with h | h <;> cases h
  refine ⟨⟨post, hpost, houtcome⟩, hirregular, ?_⟩
  obtain ⟨f, hfails⟩ := Classical.not_forall.1 hirregular
  obtain ⟨hf, hother⟩ := Classical.not_imp.1 hfails
  exact (hendpoint "966500000001" "hi" (by decide) (by decide) (by decide +kernel) rfl f hf).2
    fun message code heq => absurd ⟨message, code, heq⟩ hother

end ChatFlow.Service
