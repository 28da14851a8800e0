import ChatFlow.Proofs.Endpoint.Exchange
import ChatFlow.Proofs.Turn.Work
import Mathlib

/-!
# A request keeps all or nothing

`Turn.Obtains` is what it takes for a request step to come by a content: its data, its call and the
reply are in order. If they are, the step writes all the variables that it names (`Request.writes`)
and goes on to the one branch; if they are not, it writes nothing and goes on to the other.
-/

namespace ChatFlow

open Endpoint

/-! ### What is written -/

namespace Step

/-- What a variable is given for a field: the empty text for null or for no field at all, a text
as it is, and the JSON of any other value. -/
def Mapping.given (m : Mapping) (content : Json) : String :=
  match content.field? m.key with
  | none | some .null => ""
  | some (.str s) => s
  | some v => v.render

/-- The variables that a request writes, in order: one for all of the content, then one for each
field that is mapped. -/
def Request.writes (r : Request) (content : Json) : List (String × String) :=
  ((r.saveResponse.bind (·.toVariable?)).map fun name => (name, content.render)).toList ++
    r.responseMap.map fun m => (m.variableName, m.given content)

theorem Mapping.pick_eq_given (m : Mapping) (content : Json) : m.pick content = m.given content := by
  unfold pick given
  cases content.field? m.key with
  | none => rfl
  | some v => cases v <;> rfl

end Step

namespace Session

variable (s : Session) (r : Step.Request) (content : Json)

theorem foldl_setVariable (entries : List (String × String)) :
    entries.foldl (fun s e => s.setVariable e.1 e.2) s =
      { s with vars := s.vars.putAll entries } := by
  induction entries generalizing s with
  | nil => rfl
  | cons e entries ih => rw [List.foldl_cons, ih]; rfl

theorem keepReply_eq_putAll :
    s.keepReply r content = { s with vars := s.vars.putAll (r.writes content) } := by
  rw [← foldl_setVariable, Step.Request.writes, List.foldl_append, List.foldl_map, keepReply]
  simp only [Step.Mapping.pick_eq_given]
  cases r.saveResponse.bind (·.toVariable?) <;> rfl

end Session

namespace Turn

variable {κ : Type} (t : Turn κ) (o : Outside κ) (n : Node) {r : Step.Request} {v : Json}

/-! ### When there is a content -/

/-- A request step obtains a content: its data are valid, its call can be made, and the endpoint
delivers a reply that means success and can be read. -/
structure Obtains (t : Turn κ) (o : Outside κ) (n : Node) (r : Step.Request) (v : Json) : Prop where
  data : n.read Step.Request.decode = .ok r
  sendable : Call.Sendable r t.session
  delivered : ∃ call reply, Call.ofStep? r t.session = some call ∧ call.url.isAbsolute ∧
    (o.fetch t.world call).1 = some reply ∧ (200 ≤ reply.status ∧ reply.status < 300) ∧
      reply.Tells o.codecs v

theorem call_fst_eq_some_iff : (t.call o r).1 = some v ↔
    ∃ call reply, Call.ofStep? r t.session = some call ∧ call.url.isAbsolute ∧
      (o.fetch t.world call).1 = some reply ∧ (200 ≤ reply.status ∧ reply.status < 300) ∧
        reply.Tells o.codecs v := by
  unfold call
  cases hc : Call.ofStep? r t.session with
  | none => simp
  | some c =>
    by_cases ha : c.url.isAbsolute <;>
      simp [ha, Option.bind_eq_some_iff, Reply.content?_eq_some_iff]

theorem obtains_iff : t.Obtains o n r v ↔
    n.read Step.Request.decode = .ok r ∧ (t.call o r).1 = some v := by
  rw [call_fst_eq_some_iff]
  constructor
  · exact fun h => ⟨h.data, h.delivered⟩
  · rintro ⟨hd, hv⟩
    obtain ⟨c, _, hc, -⟩ := id hv
    exact ⟨hd, Call.isSome_ofStep?_iff.1 (by rw [hc]; rfl), hv⟩

/-! ### What else a request does -/

/-- A step that makes at most one call and, but for that, changes the session only. -/
structure CallsOnce (t t' : Turn κ) : Prop where
  isLive : t'.isLive = t.isLive
  messages : t'.messages = t.messages
  calls : ∃ calls, calls.length ≤ 1 ∧ Event.calls t'.events = Event.calls t.events ++ calls

namespace CallsOnce

variable {t} {t' : Turn κ}

theorem refl : t.CallsOnce t := ⟨rfl, rfl, [], Nat.zero_le 1, by simp⟩

theorem note (h : t.CallsOnce t') (e : Log.Entry) : t.CallsOnce (t'.note e) := by
  obtain ⟨hl, hm, calls, hn, hc⟩ := h
  exact ⟨hl, (messages_note t' e).trans hm, calls, hn, (filterMap_note (fun _ => rfl) t' e).trans hc⟩

theorem modify (h : t.CallsOnce t') (f : Session → Session) : t.CallsOnce (t'.modify f) :=
  ⟨h.isLive, h.messages, h.calls⟩

theorem call (t : Turn κ) (o : Outside κ) (r : Step.Request) : t.CallsOnce (t.call o r).2 := by
  unfold Turn.call
  split
  · exact refl
  · rename_i c _
    have once : t.CallsOnce ({ t with world := (o.fetch t.world c).2 }.record (.called c)) := by
      refine ⟨rfl, ?_, [c], Nat.le_refl 1, ?_⟩
      · simp [Turn.messages, Event.messages, record, Event.sent?]
      · simp [Event.calls, record, Event.called?]
    dsimp only
    split <;> exact once

theorem request (t : Turn κ) (o : Outside κ) (n : Node) : t.CallsOnce (t.request o n).2 := by
  simp only [Turn.request]
  split
  · exact refl.note _
  · rename_i r _
    have hc := call t o r
    split <;> rename_i heq <;> rw [heq] at hc
    · exact hc.note _
    · exact modify hc (·.keepReply r _)

end CallsOnce

theorem request_of_call_eq_none (hd : n.read Step.Request.decode = .ok r)
    (hc : (t.call o r).1 = none) : (t.request o n).1 = .ok (n.after? .invalidAnswer) := by
  match h : t.call o r with
  | (none, t') => simp only [request, hd, h]
  | (some v, t') => rw [h] at hc; cases hc

theorem request_of_obtains (h : t.Obtains o n r v) :
    (t.request o n).1 = .ok (n.after? .validAnswer) := by
  obtain ⟨hd, hv⟩ := (t.obtains_iff o n).1 h
  match hc : t.call o r with
  | (none, t') => rw [hc] at hv; cases hv
  | (some w, t') => simp only [request, hd, hc]

theorem session_request_of_obtains (h : t.Obtains o n r v) :
    (t.request o n).2.session = t.session.keepReply r v := by
  obtain ⟨hd, hv⟩ := (t.obtains_iff o n).1 h
  have hs := session_call t o r
  match hc : t.call o r with
  | (none, t') => rw [hc] at hv; cases hv
  | (some w, t') =>
    rw [hc] at hv hs
    cases hv
    simp only [request, hd, hc]
    exact congrArg (·.keepReply r v) hs

theorem session_request_of_not_obtains (h : ∀ r v, ¬ t.Obtains o n r v) :
    (t.request o n).2.session = t.session := by
  simp only [obtains_iff] at h
  unfold request
  cases hd : n.read Step.Request.decode with
  | error f => rfl
  | ok r =>
    have hs := session_call t o r
    dsimp only
    match hc : t.call o r with
    | (none, t') => rw [hc] at hs; exact hs
    | (some v, t') => exact absurd ⟨hd, by rw [hc]⟩ (h r v)

theorem calls_request_of_ofStep? {c : Call} (hd : n.read Step.Request.decode = .ok r)
    (hc : Call.ofStep? r t.session = some c) :
    Event.calls (t.request o n).2.events = Event.calls t.events ++ [c] := by
  have hcall : Event.calls (t.call o r).2.events = Event.calls t.events ++ [c] := by
    rw [call, hc]
    dsimp only
    split <;> simp [Event.calls, record, Event.called?]
  rcases h : t.call o r with ⟨_ | v, t'⟩ <;> rw [h] at hcall
  · simp only [request, hd, h]
    exact (filterMap_note (fun _ => rfl) t' _).trans hcall
  · simp only [request, hd, h]
    exact hcall

theorem calls_request_of_ofStep?_eq_none (hd : n.read Step.Request.decode = .ok r)
    (hc : Call.ofStep? r t.session = none) :
    Event.calls (t.request o n).2.events = Event.calls t.events := by
  have hcall : t.call o r = (none, t) := by rw [call, hc]
  simp only [request, hd, hcall]
  exact filterMap_note (fun _ => rfl) t _

/-- A request step never fails, makes at most one call and sends nothing. If it obtains a content, it
writes every variable that it names, in order, and goes on below the branch for a valid answer. If it
does not, the session stays as it was and the step goes on below the branch for an invalid one. -/
theorem request_all_or_nothing (t : Turn κ) (o : Outside κ) (n : Node) :
    let p := t.request o n
    t.CallsOnce p.2 ∧
    ((∃ r v, t.Obtains o n r v ∧
        p.1 = .ok ((n.outcome? .validAnswer).bind Node.firstChild?) ∧
        p.2.session = { t.session with vars := t.session.vars.putAll (r.writes v) }) ∨
      (¬ ∃ r v, t.Obtains o n r v) ∧
        p.1 = .ok ((n.outcome? .invalidAnswer).bind Node.firstChild?) ∧
        p.2.session = t.session) := by
  refine ⟨CallsOnce.request t o n, ?_⟩
  simp only [obtains_iff]
  unfold request
  cases hd : n.read Step.Request.decode with
  | error f => exact Or.inr ⟨nofun, rfl, rfl⟩
  | ok r =>
    have hs := session_call t o r
    dsimp only
    match hc : t.call o r with
    | (none, t') =>
      rw [hc] at hs
      refine Or.inr ⟨?_, rfl, hs⟩
      rintro ⟨r', v, h, hv⟩
      cases h
      rw [hc] at hv; cases hv
    | (some v, t') =>
      rw [hc] at hs
      refine Or.inl ⟨r, v, ⟨rfl, by rw [hc]⟩, rfl, ?_⟩
      exact (congrArg (·.keepReply r v) hs).trans (Session.keepReply_eq_putAll ..)

/-- A reply that means success is not enough. This one says that its text is UTF-16 but does not say
in which order its bytes stand: valid data, no body, status 200, and the step goes on as if it had
failed. -/
theorem request_fails_on_unreadable_reply :
    let leaf (id : String) : Node := ⟨some id, .action, [], []⟩
    let n : Node := ⟨some "h", .httpRequest, [("url", .str "http://api.example/orders")],
      [⟨some "v", .validAnswer, [], [leaf "ok"]⟩, ⟨some "i", .invalidAnswer, [], [leaf "ko"]⟩]⟩
    let r : Step.Request := ⟨"http://api.example/orders", "POST", none, [], none, []⟩
    let reply : Reply := ⟨200, [("content-type", "text/plain; charset=utf-16")], Text.utf8 "hello"⟩
    let o : Outside Unit := ⟨fun _ _ => (.ok (), [], ()), fun _ _ => (some reply, ()), fun _ => none⟩
    let t := Turn.start (Session.start (.ofInt 0) "a" "Ada") ()
    n.read Step.Request.decode = .ok r ∧ Text.allBlank (t.session.fillOption r.body) ∧
      Call.Sendable r t.session ∧
      (∃ call, Call.ofStep? r t.session = some call ∧ call.url.isAbsolute ∧
        (o.fetch t.world call).1 = some reply) ∧
      (200 ≤ reply.status ∧ reply.status < 300) ∧
      (t.request o n).1 = .ok (some (leaf "ko")) ∧
      (n.outcome? .validAnswer).bind Node.firstChild? = some (leaf "ok") ∧ leaf "ok" ≠ leaf "ko" := by
  intro leaf n r reply o t
  have hdata : n.read Step.Request.decode = .ok r := rfl
  have hcall : (Call.ofStep? r t.session).map (·.url.isAbsolute) = some true := by decide +kernel
  obtain ⟨call, hc, habs⟩ := Option.map_eq_some_iff.1 hcall
  have hread : reply.content? o.codecs = none := by
    have hbytes : reply.bytes = .ok [104, 101, 108, 108, 111] := by
      have hutf : reply.body = [104, 101, 108, 108, 111] := by decide +kernel
      rw [Reply.bytes, show reply.encodings = [""] by cbv, hutf]
      rfl
    rw [Reply.content?, if_pos (by decide), hbytes]
    decide +kernel
  have hnone : (t.call o r).1 = none := by
    simp [Turn.call, hc, habs, hread, o]
  refine ⟨hdata, by decide +kernel, Call.isSome_ofStep?_iff.1 (by rw [hc]; rfl),
    ⟨call, hc, habs, rfl⟩, by decide, ?_, rfl, ?_⟩
  · rw [request_of_call_eq_none t o n hdata hnone]; rfl
  · intro h
    exact absurd (congrArg Node.id h) (by decide)

end Turn

end ChatFlow
