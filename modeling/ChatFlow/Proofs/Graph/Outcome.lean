import ChatFlow.Graph.Client
import ChatFlow.Proofs.Endpoint.Ascii

/-!
# What comes of a call

A `Draft` is what a client is asked to send, `Account.Posts` says that a request for it leaves the
account, and `Outcome` is what comes of the request. The result of the call depends on the outcome
alone (`Client.result_send`): it is the data of an answer with status 200, or else a failure. The
failure says that the message was not delivered exactly if the outcome has the shape that the client
takes for granted (`Outcome.isRegular_iff`).
-/

namespace ChatFlow.Graph

/-- What a client is asked to send: a text, a text with reply buttons, or a list to choose from. -/
inductive Draft where
  | text (text : String) (preview : Bool)
  | buttons (text : String) (buttons : List Json) (header : Option String)
  | list (interactive : Json)

namespace Draft

/-- What the client calls it. -/
def what : Draft → String
  | text .. => "message"
  | buttons .. => "interactive buttons"
  | list _ => "interactive list"

/-- There are no more buttons than a message can have. -/
def Fits : Draft → Prop
  | buttons _ bs _ => bs.length ≤ maxReplyButtons
  | _ => True

/-- The payload of a draft, if all its buttons are buttons. -/
def payload (recipient : Recipient) : Draft → Except Fault Json
  | text t preview => .ok (textPayload recipient t preview)
  | buttons t bs header =>
    (bs.mapM Button.ofJson).map fun bs => interactivePayload recipient (buttonsContent t bs header)
  | list interactive => .ok (interactivePayload recipient interactive)

end Draft

/-- A draft leaves the account as a post. -/
structure Account.Posts (a : Account) (recipient : Recipient) (d : Draft) (post : Post) : Prop where
  fits : d.Fits
  sendable : ∃ payload, d.payload recipient = .ok payload ∧ Post.ofPayload a payload = .ok post

theorem Post.ofPayload_eq_ok {a : Account} {payload : Json} {url : Endpoint.Address} {text : String}
    (hurl : (Endpoint.Address.ofText a.url).toOption = some url)
    (hascii : a.authorization.toList.any (·.toNat ≥ 128) = false)
    (hencode : payload.encode = .ok text) :
    ofPayload a payload = .ok ⟨url, url.authorization?.getD a.authorization, payload⟩ := by
  rw [ofPayload, ok_of_toOption hurl, hascii, hencode]; rfl

/-- A draft leaves an account with a proper address and token if its payload has an encoding. -/
theorem Account.exists_posts {a : Account} {recipient : Recipient} {d : Draft} {payload : Json}
    {text : String} (hfits : d.Fits) (hpayload : d.payload recipient = .ok payload)
    (hencode : payload.encode = .ok text)
    (hurl : (Endpoint.Address.ofText a.url).toOption.map (·.isAbsolute) = some true)
    (hascii : a.authorization.toList.any (·.toNat ≥ 128) = false) :
    ∃ post, a.Posts recipient d post ∧ post.url.isAbsolute := by
  obtain ⟨url, hurl, habs⟩ := Option.map_eq_some_iff.1 hurl
  exact ⟨_, ⟨hfits, payload, hpayload, Post.ofPayload_eq_ok hurl hascii hencode⟩, habs⟩

/-! ### Outcomes -/

/-- What comes of a post: it is lost for some reason, or it is answered. The data of the answer is a
fault if nothing can be read of it. -/
inductive Outcome where
  | lost (reason : String)
  | answered (status : Int) (data : Except Fault Json)

/-- What comes of a post by its delivery. What cannot be unpacked is lost, and an answer cannot be taken
from an address that names nobody. -/
def Post.outcome (post : Post) (codecs : Text.Codecs) : Delivery → Outcome
  | .failed reason => .lost reason
  | .answered reply => match reply.bytes with
    | .error reason => .lost reason
    | .ok bytes => .answered reply.status <|
        if post.url.isAbsolute then answerData codecs reply bytes else .error .nobodyAddressed

/-- The result of a call by the outcome of its post. -/
def Outcome.result (what phone : String) : Outcome → Except Fault Json
  | lost reason => .error (.undelivered ("Exception sending " ++ what ++ " to " ++ phone ++ ": " ++
      reason) "transport")
  | answered _ (.error f) => .error f
  | answered status (.ok data) =>
    if status = 200 then .ok data else .error (refusal data what phone).1

theorem answerData_eq_error {codecs : Text.Codecs} {reply : Endpoint.Reply} {bytes : List UInt8}
    {f : Fault} (h : answerData codecs reply bytes = .error f) : f = .tooDeep ∨ f = .undecodable := by
  unfold answerData Endpoint.Reply.data at h
  split at h
  · cases h
  · cases h; exact Or.inl rfl
  · split at h <;> cases h
    exact Or.inr rfl

theorem Post.outcome_ne_undelivered (post : Post) (codecs : Text.Codecs) (delivery : Delivery)
    (status : Int) (message code : String) :
    post.outcome codecs delivery ≠ .answered status (.error (.undelivered message code)) := by
  intro h
  unfold outcome at h
  split at h
  · cases h
  · split at h
    · cases h
    · rename_i reply bytes _
      by_cases habs : post.url.isAbsolute
      · rw [if_pos habs] at h
        rcases answerData_eq_error (Outcome.answered.inj h).2 with heq | heq <;> cases heq
      · rw [if_neg habs] at h
        cases h

theorem Post.outcome_of_read {post : Post} {codecs : Text.Codecs} {reply : Endpoint.Reply}
    {s : String} {data : Json} (habs : post.url.isAbsolute) (hheaders : reply.headers = [])
    (hbody : reply.body = Text.utf8 s) (hascii : Text.IsAscii s.toList)
    (hread : Json.read s = .ok data) :
    post.outcome codecs (.answered reply) = .answered reply.status (.ok data) := by
  have hdata := Json.readBody_of_isAscii hascii
  rw [hread, ← hbody] at hdata
  rw [outcome, Endpoint.Reply.bytes_of_headers hheaders]
  dsimp only
  rw [if_pos habs, answerData, Endpoint.Reply.data, hdata]

/-! ### What an answer says about a refusal -/

/-- What stands under `error` in an answer, if it can be looked at: an object, which may be absent. -/
def errorInfo? (data : Json) : Option (Assoc Json) :=
  match data.member "error" (.obj []) with
  | .ok (.obj info) => some info
  | _ => none

def errorMessage (info : Assoc Json) : String :=
  ((Assoc.get? info "message").getD (.str "Unknown error")).words

def errorCode (info : Assoc Json) : String :=
  ((Assoc.get? info "code").getD (.str "unknown")).words

theorem refusal_of_errorInfo? {data : Json} {info : Assoc Json} (h : errorInfo? data = some info)
    (what phone : String) :
    (refusal data what phone).1 = .undelivered (errorMessage info) (errorCode info) := by
  unfold errorInfo? at h
  split at h <;> cases h
  rename_i hdata
  rw [refusal, hdata]
  rfl

theorem refusal_of_errorInfo?_eq_none {data : Json} (h : errorInfo? data = none)
    (what phone : String) : (refusal data what phone).1 = .notObject := by
  unfold errorInfo? at h
  unfold refusal
  split
  · rename_i f hf
    cases data <;> cases hf <;> rfl
  · rename_i info hinfo
    rw [hinfo] at h
    cases h
  · rfl

namespace Outcome

variable {outcome : Outcome} {what phone : String}

theorem result_eq_ok_iff {data : Json} :
    outcome.result what phone = .ok data ↔ outcome = .answered 200 (.ok data) := by
  constructor
  · intro h
    match outcome with
    | .lost _ | .answered _ (.error _) => cases h
    | .answered status (.ok data) =>
      rw [result] at h
      split at h <;> cases h
      rename_i hstatus
      rw [hstatus]
  · rintro rfl
    rfl

theorem result_eq_undelivered_iff {message code : String}
    (hread : ∀ status, outcome ≠ .answered status (.error (.undelivered message code))) :
    outcome.result what phone = .error (.undelivered message code) ↔
      (∃ reason, outcome = .lost reason ∧
        message = "Exception sending " ++ what ++ " to " ++ phone ++ ": " ++ reason ∧
        code = "transport") ∨
      ∃ status data info, outcome = .answered status (.ok data) ∧ status ≠ 200 ∧
        errorInfo? data = some info ∧ message = errorMessage info ∧ code = errorCode info := by
  constructor
  · intro h
    match outcome with
    | .lost reason => cases h; exact Or.inl ⟨reason, rfl, rfl, rfl⟩
    | .answered status (.error f) => cases h; exact absurd rfl (hread status)
    | .answered status (.ok data) =>
      rw [result] at h
      split at h
      · cases h
      · rename_i hstatus
        cases hinfo : errorInfo? data with
        | none => rw [refusal_of_errorInfo?_eq_none hinfo] at h; cases h
        | some info =>
          rw [refusal_of_errorInfo? hinfo] at h
          cases h
          exact Or.inr ⟨status, data, info, rfl, hstatus, hinfo, rfl, rfl⟩
  · rintro (⟨reason, rfl, rfl, rfl⟩ | ⟨status, data, info, rfl, hstatus, hinfo, rfl, rfl⟩)
    · rfl
    · rw [result, if_neg hstatus, refusal_of_errorInfo? hinfo]

/-- An outcome of the shape that the client takes for granted: what is answered can be read, and a
refusal is an object that has an object under `error`, or nothing. -/
def IsRegular : Outcome → Prop
  | lost _ => True
  | answered _ (.error _) => False
  | answered status (.ok data) => status = 200 ∨ (errorInfo? data).isSome

/-- A call whose outcome is regular fails only with a message that was not delivered, and another one
fails with something else. -/
theorem isRegular_iff
    (hread : ∀ status message code,
      outcome ≠ .answered status (.error (.undelivered message code))) :
    outcome.IsRegular ↔ ∀ f, outcome.result what phone = .error f →
      ∃ message code, f = .undelivered message code := by
  match outcome with
  | .lost reason => exact ⟨fun _ f h => by cases h; exact ⟨_, _, rfl⟩, fun _ => trivial⟩
  | .answered status (.error f) =>
    refine ⟨False.elim, fun h => ?_⟩
    obtain ⟨message, code, rfl⟩ := h f rfl
    exact hread status message code rfl
  | .answered status (.ok data) =>
    show status = 200 ∨ _ ↔ _
    rw [result]
    split <;> rename_i hstatus
    · exact ⟨fun _ _ => nofun, fun _ => Or.inl hstatus⟩
    · rw [or_iff_right hstatus]
      cases hinfo : errorInfo? data with
      | none =>
        rw [refusal_of_errorInfo?_eq_none hinfo]
        refine ⟨nofun, fun h => ?_⟩
        obtain ⟨message, code, hf⟩ := h .notObject rfl
        cases hf
      | some info =>
        rw [refusal_of_errorInfo? hinfo]
        exact ⟨fun _ f h => by cases h; exact ⟨_, _, rfl⟩, fun _ => rfl⟩

end Outcome

/-! ### Calls -/

namespace Client

variable {κ : Type} {a : Account} {recipient : Recipient} {d : Draft} {post : Post}

/-- The call that sends a draft. -/
def send (c : Client) (w : Wire κ) (s : κ) (recipient : Recipient) : Draft → Sent κ Json
  | .text t preview => c.sendText w s recipient t preview
  | .buttons t bs header => c.sendButtons w s recipient t bs header
  | .list interactive => c.sendList w s recipient interactive

theorem result_judge (codecs : Text.Codecs) (url : Endpoint.Address) (reply : Endpoint.Reply)
    (bytes : List UInt8) (what phone : String) :
    (judge codecs url reply bytes what phone).1 = (Outcome.answered reply.status <|
      if url.isAbsolute then answerData codecs reply bytes else .error .nobodyAddressed).result
        what phone := by
  unfold judge
  cases url.isAbsolute with
  | false => rfl
  | true =>
    simp only [Bool.not_true, Bool.false_eq_true, if_false, if_true]
    cases answerData codecs reply bytes with
    | error f => rfl
    | ok data =>
      rw [Outcome.result]
      dsimp only
      split <;> rfl

/-- The result of a call depends on the outcome of the post alone. -/
theorem result_deliver {payload : Json} (h : Post.ofPayload a payload = .ok post) (w : Wire κ) (s : κ)
    (what phone : String) :
    ((account a).deliver w s payload what phone).1 =
      (post.outcome w.codecs (w.post s post).1).result what phone := by
  simp only [deliver, h]
  obtain ⟨delivery, s'⟩ := w.post s post
  cases delivery with
  | failed reason => rfl
  | answered reply =>
    dsimp only [Post.outcome]
    cases reply.bytes with
    | error reason => rfl
    | ok bytes => exact result_judge ..

theorem result_deliver_of_error {payload : Json} {f : Fault} (h : Post.ofPayload a payload = .error f)
    (w : Wire κ) (s : κ) (what phone : String) :
    ((account a).deliver w s payload what phone).1 = .error f := by
  simp only [deliver, h]

theorem send_eq_deliver {payload : Json} (hfits : d.Fits) (hpayload : d.payload recipient = .ok payload)
    (a : Account) (w : Wire κ) (s : κ) :
    (account a).send w s recipient d = (account a).deliver w s payload d.what recipient.phone := by
  cases d with
  | text t preview => cases hpayload; rfl
  | list interactive => cases hpayload; rfl
  | buttons t bs header =>
    have hcount : ¬ bs.length > maxReplyButtons := Nat.not_lt.2 hfits
    rw [Draft.payload] at hpayload
    cases hbs : bs.mapM Button.ofJson with
    | error f => rw [hbs] at hpayload; cases hpayload
    | ok buttons =>
      rw [hbs] at hpayload
      cases hpayload
      simp only [send, sendButtons, reduceCtorEq, if_false, if_neg hcount, hbs]
      rfl

theorem result_send (h : a.Posts recipient d post) (w : Wire κ) (s : κ) :
    ((account a).send w s recipient d).1 =
      (post.outcome w.codecs (w.post s post).1).result d.what recipient.phone := by
  obtain ⟨payload, hpayload, hpost⟩ := h.sendable
  rw [send_eq_deliver h.fits hpayload, result_deliver hpost]

theorem posts_of_send {c : Client} {w : Wire κ} {s : κ} {answer : Json}
    (h : (c.send w s recipient d).1 = .ok answer) :
    ∃ a post, c = .account a ∧ a.Posts recipient d post := by
  cases c with
  | unavailable => cases d <;> cases h
  | account a =>
    have hdraft : d.Fits ∧ ∃ payload, d.payload recipient = .ok payload := by
      cases d with
      | text t preview => exact ⟨trivial, _, rfl⟩
      | list interactive => exact ⟨trivial, _, rfl⟩
      | buttons t bs header =>
        simp only [send, sendButtons, reduceCtorEq, if_false] at h
        split at h
        · cases h
        · rename_i hcount
          refine ⟨Nat.not_lt.1 hcount, ?_⟩
          split at h
          · cases h
          · rename_i buttons hbs
            exact ⟨_, by rw [Draft.payload, hbs]; rfl⟩
    obtain ⟨hfits, payload, hpayload⟩ := hdraft
    cases hpost : Post.ofPayload a payload with
    | error f =>
      rw [send_eq_deliver hfits hpayload, result_deliver_of_error hpost] at h
      cases h
    | ok post => exact ⟨a, post, rfl, hfits, payload, hpayload, hpost⟩

/-- A request for a draft leaves the client and is answered with status 200 and these data. -/
def Delivers (c : Client) (w : Wire κ) (s : κ) (recipient : Recipient) (d : Draft)
    (data : Except Fault Json) : Prop :=
  ∃ a post, c = account a ∧ a.Posts recipient d post ∧
    post.outcome w.codecs (w.post s post).1 = .answered 200 data

theorem send_eq_ok_iff {c : Client} {w : Wire κ} {s : κ} {answer : Json} :
    (c.send w s recipient d).1 = .ok answer ↔ c.Delivers w s recipient d (.ok answer) := by
  constructor
  · intro h
    obtain ⟨a, post, rfl, hpost⟩ := posts_of_send h
    rw [result_send hpost] at h
    exact ⟨a, post, rfl, hpost, Outcome.result_eq_ok_iff.1 h⟩
  · rintro ⟨a, post, rfl, hpost, houtcome⟩
    rw [result_send hpost]
    exact Outcome.result_eq_ok_iff.2 houtcome

theorem Delivers.eq {c : Client} {w : Wire κ} {s : κ} {v v' : Json}
    (h : c.Delivers w s recipient d (.ok v)) (h' : c.Delivers w s recipient d (.ok v')) : v = v' :=
  Except.ok.inj ((send_eq_ok_iff.2 h).symm.trans (send_eq_ok_iff.2 h'))

end Client

end ChatFlow.Graph
