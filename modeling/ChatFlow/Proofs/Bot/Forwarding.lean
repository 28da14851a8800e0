import ChatFlow.Proofs.Bot.Session
import ChatFlow.Proofs.Choice.Variables
import ChatFlow.Proofs.Endpoint.Ascii
import ChatFlow.Proofs.Endpoint.Payload
import ChatFlow.Proofs.Json.RoundTrip
import ChatFlow.Proofs.Template.Fragments

/-!
# Replies that are sent on

A request can keep all that it is told in a variable, and a later one can send the variable as its
body. `Bot.Later` leads from one moment of a session to a later one without a write to the variable,
so the text that was kept is still there (`Later.get?_vars`); it is put into the body as it is
(`Template.fill_placeholder`) and read as the value that it was written for
(`saved_reply_is_sent_unchanged`).
-/

namespace ChatFlow

open Endpoint
open Step (QuestionData Request)

namespace Endpoint

variable {q : Request} {s : Session} {r : Json} {v : String}

theorem Reply.Tells.parse_render {reply : Reply} {codecs : Text.Codecs} (h : reply.Tells codecs r)
    (he : r.Exact) : Json.parse r.render = some r := by
  refine Json.parse_render ?_ he
  cases h with
  | json hbytes hread =>
    unfold Json.readBody at hread
    split at hread
    · rename_i cs _
      exact Json.fits_of_parse (t := String.ofList cs) (by rw [Json.parse, hread]; rfl)
    · cases hread
  | text => exact .str _

/-- A step that sends a variable as its body makes a call whose body is the text in the variable, if
that is what is written for an exact value. -/
theorem Call.exists_of_placeholder (hbody : q.body = some ("\x7b\x7b" ++ v ++ "\x7d\x7d"))
    (hne : v ≠ "") (hword : ∀ c ∈ v.toList, Text.isWord c = true)
    (hvalue : s.vars.get? v = some r.render) (hr : r ≠ .null) (he : r.Exact)
    (hparse : Json.parse r.render = some r) (haddress : ∃ url, Address.ofText q.url = .ok url)
    (hheaders : ∀ e ∈ Assoc.ofEntries (q.headers.map fun h => (h.key, h.value)),
      isAscii e.1 ∧ isAscii e.2) :
    ∃ call, Call.ofStep? q s = some call ∧ call.body = r.render := by
  have hfill : s.fillOption q.body = r.render := by
    rw [hbody]
    exact Template.fill_placeholder hne hword hvalue
  have hpayload : payload? (s.fillOption q.body) = some (some r) := by
    have hself : r.payload = some r := by cases r <;> first | rfl | exact absurd rfl hr
    rw [hfill, payload?_of_parse hparse, hself]
  have hsendable : Call.Sendable q s :=
    ⟨Or.inr ⟨r, r.render, by rw [hfill]; exact hparse, he.encode_eq⟩, haddress, hheaders⟩
  obtain ⟨call, hcall⟩ := Option.isSome_iff_exists.1 (Call.isSome_ofStep?_iff.2 hsendable)
  have hwritten := (Call.body_of_ofStep? hcall hpayload).2 r rfl
  rw [he.encode_eq] at hwritten
  exact ⟨call, hcall, (Except.ok.inj hwritten).symm⟩

end Endpoint

namespace Turn

variable {κ : Type} {o : Outside κ} {w : Workflow} {r : Rules} {n : Node} {t : Turn κ}

theorem session_pass (o : Outside κ) (w : Workflow) (r : Rules) (n : Node) (t : Turn κ) :
    (pass o w r (some n, t)).2.session = ((t.begin n).execute o w r n).2.session := by
  rw [pass]
  split <;> rename_i heq <;> rw [heq]
  rfl

theorem execute_request (hk : n.kind = .httpRequest) (t : Turn κ) (o : Outside κ) (w : Workflow)
    (r : Rules) : t.execute o w r n = t.request o n := by
  rw [execute, hk]

theorem calls_pass_request (hk : n.kind = .httpRequest) (t : Turn κ) (o : Outside κ) (w : Workflow)
    (r : Rules) : Event.calls (pass o w r (some n, t)).2.events =
      Event.calls ((t.begin n).request o n).2.events := by
  rw [pass, execute_request hk]
  split <;> rename_i heq <;> rw [heq]
  exact filterMap_note (fun _ => rfl) _ _

theorem calls_begin (t : Turn κ) (n : Node) :
    Event.calls (t.begin n).events = Event.calls t.events := by
  refine (filterMap_note (fun _ => rfl) _ _).trans ?_
  simp [record, Event.called?, Event.calls]

theorem exists_call_of_placeholder {v : String} {value : Json} {q : Request} (o : Outside κ)
    (w : Workflow) (r : Rules) (hk : n.kind = .httpRequest) (hdata : n.read Request.decode = .ok q)
    (hbody : q.body = some ("\x7b\x7b" ++ v ++ "\x7d\x7d")) (hne : v ≠ "")
    (hword : ∀ c ∈ v.toList, Text.isWord c = true)
    (hvalue : t.session.vars.get? v = some value.render) (hnull : value ≠ .null)
    (he : value.Exact) (hparse : Json.parse value.render = some value)
    (haddress : ∃ url, Address.ofText q.url = .ok url)
    (hheaders : ∀ e ∈ Assoc.ofEntries (q.headers.map fun h => (h.key, h.value)),
      isAscii e.1 ∧ isAscii e.2) :
    ∃ call, Event.calls (pass o w r (some n, t)).2.events = Event.calls t.events ++ [call] ∧
      call.body = value.render := by
  obtain ⟨call, hcall, hwritten⟩ := Call.exists_of_placeholder (s := t.session) hbody hne hword
    hvalue hnull he hparse haddress hheaders
  refine ⟨call, ?_, hwritten⟩
  rw [calls_pass_request hk, calls_request_of_ofStep? (t.begin n) o n hdata hcall, calls_begin]

theorem get?_vars_execute {v : String} (h : n.kind = .httpRequest → ∀ q content,
      t.Obtains o n q content → v ∉ Assoc.keys (q.writes content)) :
    (t.execute o w r n).2.session.vars.get? v = t.session.vars.get? v := by
  rcases (touches_execute t o w r n).get?_vars v with hs | ⟨hk, -⟩
  · exact hs
  · rw [execute_request hk]
    by_cases hobtains : ∃ q content, t.Obtains o n q content
    · obtain ⟨q, content, hq⟩ := hobtains
      rw [session_request_of_obtains t o n hq, Session.keepReply_eq_putAll]
      exact Assoc.get?_putAll_of_not_mem (h hk q content hq) _
    · rw [session_request_of_not_obtains t o n fun q content hq => hobtains ⟨q, content, hq⟩]

end Turn

namespace Bot

variable {κ : Type} {b : Bot κ} {c v : String} {p p' : Option Node × Turn κ}

/-- From a moment of a turn in the conversation `c` the bot has come to a later one, in the same turn or
in another one of the same session, and nothing was written to the variable `v` on the way: no step
has obtained a content that it keeps there, and no answer was taken that belongs there. -/
inductive Later (b : Bot κ) (c v : String) (p : Option Node × Turn κ) :
    Option Node × Turn κ → Prop
  | refl : Later b c v p p
  | step {n : Node} {t : Turn κ} (h : Later b c v p (some n, t))
      (hn : n.kind = .httpRequest → ∀ q content, (t.begin n).Obtains b.outside n q content →
        v ∉ Assoc.keys (q.writes content)) :
      Later b c v p (Turn.pass b.outside b.workflow b.rules (some n, t))
  | message {t : Turn κ} {st : State κ} {now : Instant} (h : Later b c v p (none, t))
      (hlive : st.registry.live? now c = some (t.session.touch now)) (text name : String)
      (hq : ∀ q d, b.workflow.question? t.session.waiting = some q →
        q.read QuestionData.decode = .ok d → d.question.accepts text = .ok true →
        d.saveResponse.bind (·.toVariable?) ≠ some v) :
      Later b c v p (b.opening st now c text name)

theorem Later.get?_vars (h : b.Later c v p p') :
    p'.2.session.vars.get? v = p.2.session.vars.get? v := by
  induction h with
  | refl => rfl
  | @step n t h hn ih =>
    rw [Turn.session_pass]
    exact (Turn.get?_vars_execute hn).trans ih
  | @message t st now h hlive text name hq ih =>
    rcases b.session_opening st now c text name with ⟨hnone, -⟩ | ⟨s, hs, hopen⟩
    · rw [hlive] at hnone; cases hnone
    · rw [hlive] at hs
      cases hs
      rcases hopen with ⟨-, hopen⟩ | ⟨q, hfound, hopen, -⟩ <;> rw [hopen]
      · exact ih
      · rcases (Turn.start (t.session.touch now) st.world).vars_answer b.rules q text with
          hsame | ⟨d, v', hd, haccepts, hv', hput⟩
        · rw [hsame]; exact ih
        · have hne : v' ≠ v := fun heq => hq q d hfound hd haccepts (by rw [hv', heq])
          rw [hput, Assoc.get?_put_of_ne _ _ hne]
          exact ih

/-- What a request was told is in the variable that it saves it to, unless one of its fields is written
there, too. -/
theorem get?_vars_of_saved {t : Turn κ} {o : Outside κ} {n : Node} {q : Request} {r : Json}
    (hobtains : t.Obtains o n q r) (hsave : q.saveResponse.bind (·.toVariable?) = some v)
    (hmap : ∀ m ∈ q.responseMap, m.variableName ≠ v) :
    (t.request o n).2.session.vars.get? v = some r.render := by
  have hmapped : v ∉ Assoc.keys (q.responseMap.map fun m => (m.variableName, m.given r)) := by
    intro hmem
    obtain ⟨e, he, rfl⟩ := List.mem_map.1 hmem
    obtain ⟨m, hm, rfl⟩ := List.mem_map.1 he
    exact hmap m hm rfl
  have hwrites : q.writes r =
      (v, r.render) :: q.responseMap.map fun m => (m.variableName, m.given r) := by
    rw [Request.writes, hsave]; rfl
  rw [Turn.session_request_of_obtains t o n hobtains, Session.keepReply_eq_putAll, hwrites]
  show Assoc.get? (Assoc.putAll (Assoc.put t.session.vars v r.render) _) v = _
  rw [Assoc.get?_putAll_of_not_mem hmapped, Assoc.get?_put_self]

/-- What a request was told is sent on unchanged. A request step obtains a value other than null,
without doubles and with texts that have an encoding, and saves it to a variable whose name is a word.
In every later moment of the session at which nothing has been written to the variable since, a request
step that has the variable's placeholder for its body, and whose address and headers are in order,
makes one call; the body of the call is the compact JSON of the value, and is read as the value. -/
theorem saved_reply_is_sent_unchanged (b : Bot κ) {c v : String} {n : Node} {t : Turn κ}
    {q : Request} {r : Json} (hk : n.kind = .httpRequest)
    (hobtains : (t.begin n).Obtains b.outside n q r) (hr : r ≠ .null) (he : r.Exact)
    (hne : v ≠ "") (hword : ∀ c ∈ v.toList, Text.isWord c = true)
    (hsave : q.saveResponse.bind (·.toVariable?) = some v)
    (hmap : ∀ m ∈ q.responseMap, m.variableName ≠ v) {n' : Node} {t' : Turn κ} {q' : Request}
    (hlater : b.Later c v (Turn.pass b.outside b.workflow b.rules (some n, t)) (some n', t'))
    (hk' : n'.kind = .httpRequest) (hdata : n'.read Request.decode = .ok q')
    (hbody : q'.body = some ("\x7b\x7b" ++ v ++ "\x7d\x7d"))
    (haddress : ∃ url, Address.ofText q'.url = .ok url)
    (hheaders : ∀ e ∈ Assoc.ofEntries (q'.headers.map fun h => (h.key, h.value)),
      isAscii e.1 ∧ isAscii e.2) :
    ∃ call, Event.calls (Turn.pass b.outside b.workflow b.rules (some n', t')).2.events =
        Event.calls t'.events ++ [call] ∧
      call.body = r.render ∧ Json.parse call.body = some r := by
  obtain ⟨-, reply, -, -, -, -, htells⟩ := hobtains.delivered
  have hparse := htells.parse_render he
  have hvalue : t'.session.vars.get? v = some r.render := by
    rw [hlater.get?_vars, Turn.session_pass, Turn.execute_request hk]
    exact get?_vars_of_saved hobtains hsave hmap
  obtain ⟨call, hcalls, hwritten⟩ := Turn.exists_call_of_placeholder b.outside b.workflow b.rules
    hk' hdata hbody hne hword hvalue hr he hparse haddress hheaders
  exact ⟨call, hcalls, hwritten, by rw [hwritten]; exact hparse⟩

/-! ### A request after a request -/

/-- What a request is told is saved to `v`, and fields of it are written, too. -/
def savingRequest (fields : List Step.Mapping) : Request :=
  ⟨"http://api.example/first", "POST", none, [], some ⟨true, some "v", false, none⟩, fields⟩

/-- The variable `v` is sent to an address. -/
def sending (address : String) : Node :=
  ⟨some "b", .httpRequest, [("url", .str address), ("body", .str "\x7b\x7bv\x7d\x7d")], []⟩

/-- A request that saves what it is told, and the other one after it. -/
def saving (fields : List Json) (address : String) : Node :=
  ⟨some "a", .httpRequest, [("url", .str "http://api.example/first"),
      ("saveResponse", .obj [("hasVariable", .bool true), ("variable", .str "v")]),
      ("responseMap", .arr fields)],
    [⟨some "ok", .validAnswer, [], [sending address]⟩]⟩

/-- A bot whose requests are all answered alike. -/
def answered (reply : Reply) : Bot Unit where
  workflow := ⟨⟨none, .other "Trigger", [], []⟩, [], "forward", nofun⟩
  rules := ⟨3, 3, Rules.standardListButton⟩
  outside := ⟨fun _ _ => (.ok (), [], ()), fun _ _ => (some reply, ()), fun _ => none⟩

/-- A turn before its first step. -/
def ready : Turn Unit := Turn.start (Session.start (.ofInt 0) "a" "Ada") ()

/-- What comes after the first request. -/
def afterSaving (reply : Reply) (fields : List Json) (address : String) : Option Node × Turn Unit :=
  Turn.pass (answered reply).outside (answered reply).workflow (answered reply).rules
    (some (saving fields address), ready)

/-- What comes of the second one. -/
def afterSending (reply : Reply) (address : String) (t : Turn Unit) : Turn Unit :=
  (Turn.pass (answered reply).outside (answered reply).workflow (answered reply).rules
    (some (sending address), t)).2

variable {reply : Reply} {r : Json}

theorem obtains_saving (fields : List Json) (maps : List Step.Mapping) (address : String)
    (hread : (saving fields address).read Request.decode = .ok (savingRequest maps))
    (hstatus : 200 ≤ reply.status ∧ reply.status < 300) (htells : reply.Tells (answered reply).outside.codecs r) :
    (ready.begin (saving fields address)).Obtains (answered reply).outside (saving fields address)
      (savingRequest maps) r := by
  have hcall : (Call.ofStep? (savingRequest []) ready.session).map (·.url.isAbsolute) = some true := by
    decide +kernel
  -- Which fields are written does not matter for the call.
  obtain ⟨call, hc, habsolute⟩ := Option.map_eq_some_iff.1 hcall
  have hc' : Call.ofStep? (savingRequest maps) (ready.begin (saving fields address)).session =
      some call := hc
  exact ⟨hread, Call.isSome_ofStep?_iff.1 (by rw [hc']; rfl),
    ⟨call, reply, hc', habsolute, rfl, hstatus, htells⟩⟩

theorem exists_afterSaving (fields : List Json) (maps : List Step.Mapping) (address : String)
    (hread : (saving fields address).read Request.decode = .ok (savingRequest maps))
    (hstatus : 200 ≤ reply.status ∧ reply.status < 300) (htells : reply.Tells (answered reply).outside.codecs r) :
    ∃ t, afterSaving reply fields address = (some (sending address), t) ∧
      t.session.vars = Assoc.putAll [] ((savingRequest maps).writes r) := by
  have hobtains := obtains_saving fields maps address hread hstatus htells
  have hnext := Turn.request_of_obtains _ _ _ hobtains
  have hsession := Turn.session_request_of_obtains _ _ _ hobtains
  rw [Session.keepReply_eq_putAll] at hsession
  refine ⟨(afterSaving reply fields address).2, Prod.ext ?_ rfl, ?_⟩
  · rw [afterSaving, Turn.pass, Turn.execute_request rfl]
    split <;> rename_i heq <;> rw [heq] at hnext
    · cases hnext
    · exact Except.ok.inj hnext
  · rw [afterSaving, Turn.session_pass, Turn.execute_request rfl, hsession]
    rfl

/-- A reply with quotes, a backslash, a line feed and what looks like placeholders. -/
theorem saved_reply_is_sent_unchanged_quotes :
    let r : Json := .obj [("note", .str "\"\x7b\x7bv\x7d\x7d\" \\ \x7b\x7bcontact.name\x7d\x7d\n"),
      ("list", .arr [.int (-17), .bool true, .null])]
    let reply : Reply := ⟨200, [], Text.utf8 r.render⟩
    let second := "http://api.example/second"
    (ready.begin (saving [] second)).Obtains (answered reply).outside (saving [] second)
        (savingRequest []) r ∧ r ≠ .null ∧ r.Exact ∧
      ∃ t call, afterSaving reply [] second = (some (sending second), t) ∧
        Event.calls (afterSending reply second t).events = Event.calls t.events ++ [call] ∧
        call.body = r.render ∧ Json.parse call.body = some r := by
  intro r reply second
  have hread : Json.read r.render = .ok r := by cbv
  have htells : reply.Tells (answered reply).outside.codecs r :=
    (Reply.tells_iff_of_isAscii rfl rfl (by decide +kernel)).2 (Or.inl hread)
  have hexact : r.Exact := by
    refine .obj (by decide +kernel) (List.forall_mem_cons.2
      ⟨.str (by decide +kernel), List.forall_mem_singleton.2 (.arr ?_)⟩)
    exact List.forall_mem_cons.2 ⟨.int _, List.forall_mem_cons.2
      ⟨.bool _, List.forall_mem_singleton.2 .null⟩⟩
  have haddress : ∃ url, Address.ofText "http://api.example/second" = .ok url := ⟨_, rfl⟩
  have hobtains := obtains_saving [] [] second rfl (by decide) htells
  obtain ⟨t, ht, -⟩ := exists_afterSaving [] [] second rfl (by decide) htells
  have hlater : (answered reply).Later "a" "v" (afterSaving reply [] second)
      (some (sending second), t) := by
    rw [ht]
    exact .refl
  have hdata : (sending second).read Request.decode =
      .ok ⟨second, "POST", some "\x7b\x7bv\x7d\x7d", [], none, []⟩ := rfl
  have hnull : r ≠ .null := fun h => Json.noConfusion h
  obtain ⟨call, hcalls, hbody, hparse⟩ := saved_reply_is_sent_unchanged (answered reply) rfl
    hobtains hnull hexact (by decide) (List.all_eq_true.1 rfl) rfl (List.forall_mem_nil _) hlater rfl
    hdata rfl haddress (List.forall_mem_nil _)
  exact ⟨hobtains, hnull, hexact, t, call, ht, by rw [afterSending]; exact hcalls, hbody, hparse⟩

theorem get?_vars_afterSaving {t : Turn Unit}
    (hvars : t.session.vars = Assoc.putAll [] ((savingRequest []).writes r)) :
    t.session.vars.get? "v" = some r.render := by
  rw [hvars]
  rfl

theorem exists_afterSending {t : Turn Unit} (reply : Reply)
    (hvalue : t.session.vars.get? "v" = some r.render) (hr : r ≠ .null) (he : r.Exact)
    (hparse : Json.parse r.render = some r) :
    ∃ call, Event.calls (afterSending reply "http://api.example/second" t).events =
        Event.calls t.events ++ [call] ∧ call.body = r.render ∧ Json.parse call.body = some r := by
  obtain ⟨call, hcalls, hbody⟩ := Turn.exists_call_of_placeholder (v := "v")
    (q := ⟨"http://api.example/second", "POST", some "\x7b\x7bv\x7d\x7d", [], none, []⟩)
    (answered reply).outside (answered reply).workflow (answered reply).rules
    (n := sending "http://api.example/second") rfl rfl rfl (by decide) (List.all_eq_true.1 rfl) hvalue
    hr he hparse ⟨_, rfl⟩ (List.forall_mem_nil _)
  exact ⟨call, by rw [afterSending]; exact hcalls, hbody, by rw [hbody]; exact hparse⟩

/-- An integer that is too long to be read is taken for a text, and sent as a text. -/
theorem exists_afterSending_of_oversized {n : Int} (hn : 10 ^ Text.maxDigits ≤ n.natAbs) :
    let reply : Reply := ⟨200, [], Text.utf8 (Json.int n).render⟩
    let second := "http://api.example/second"
    ∃ t call, afterSaving reply [] second = (some (sending second), t) ∧
      Event.calls (afterSending reply second t).events = Event.calls t.events ++ [call] ∧
      Json.parse call.body = some (.str (Json.int n).render) ∧
      Json.parse call.body ≠ some (.int n) := by
  intro reply second
  have hascii : Text.IsAscii (Json.int n).render.toList := by
    rw [Json.render, String.toList_ofList]
    exact Json.isAscii_chars_int n
  have htells : reply.Tells (answered reply).outside.codecs (.str (Json.int n).render) := by
    refine (Reply.tells_iff_of_isAscii rfl rfl hascii).2
      (Or.inr ⟨.oversizedNumber, ?_, by decide, rfl⟩)
    rw [Json.render, Json.chars, String.ofList_toList]
    exact Json.read_toString_of_le hn
  have hexact : (Json.str (Json.int n).render).Exact := .str (Text.isWhole_of_isAscii hascii)
  obtain ⟨t, ht, hvars⟩ := exists_afterSaving [] [] second rfl
    (show 200 ≤ (200 : Int) ∧ (200 : Int) < 300 by decide) htells
  obtain ⟨call, hcalls, -, hparse⟩ := exists_afterSending reply (get?_vars_afterSaving hvars)
    (fun h => Json.noConfusion h) hexact (Json.parse_render (.str _) hexact)
  exact ⟨t, call, ht, hcalls, hparse, by rw [hparse]; simp⟩

/-- What was saved is not always sent unchanged. An integer that is too long to be read is taken for a
text; a field that is written to the same variable takes the place of all the reply; and a step whose
address is none sends nothing. -/
theorem saved_reply_is_not_sent :
    let second := "http://api.example/second"
    (let r : Json := .int (10 ^ 4300)
      let reply : Reply := ⟨200, [], Text.utf8 r.render⟩
      ∃ t call, afterSaving reply [] second = (some (sending second), t) ∧
        Event.calls (afterSending reply second t).events = Event.calls t.events ++ [call] ∧
        Json.parse call.body = some (.str r.render) ∧ Json.parse call.body ≠ some r) ∧
    (let r : Json := .obj [("a", .int 1)]
      let reply : Reply := ⟨200, [], Text.utf8 r.render⟩
      let fields := [.obj [("variable", .str "v"), ("key", .str "a")]]
      ∃ t call, afterSaving reply fields second = (some (sending second), t) ∧
        Event.calls (afterSending reply second t).events = Event.calls t.events ++ [call] ∧
        Json.parse call.body = some (.int 1) ∧ Json.parse call.body ≠ some r) ∧
    (let reply : Reply := ⟨200, [], Text.utf8 "1"⟩
      ∃ t, afterSaving reply [] "http://api.example/\n" = (some (sending "http://api.example/\n"), t) ∧
        Event.calls (afterSending reply "http://api.example/\n" t).events = Event.calls t.events) := by
  intro second
  refine ⟨?_, ?_, ?_⟩
  · have hlong (k : Nat) (hk : Text.maxDigits ≤ k) : 10 ^ Text.maxDigits ≤ ((10 : Int) ^ k).natAbs := by
      rw [Int.natAbs_pow]
      exact Nat.pow_le_pow_right (by decide) hk
    exact exists_afterSending_of_oversized (hlong 4300 (Nat.le_refl _))
  · intro r reply fields
    have hread : Json.read r.render = .ok r := by cbv
    have hone : Json.parse (Json.int 1).render = some (.int 1) := by cbv
    have htells : reply.Tells (answered reply).outside.codecs r :=
      (Reply.tells_iff_of_isAscii rfl rfl (by decide +kernel)).2 (Or.inl hread)
    obtain ⟨t, ht, hvars⟩ := exists_afterSaving fields [⟨"v", "a"⟩] second rfl (by decide) htells
    have hvalue : t.session.vars.get? "v" = some (Json.int 1).render := by
      rw [hvars]
      decide +kernel
    obtain ⟨call, hcalls, -, hparse⟩ := exists_afterSending reply hvalue
      (fun h => Json.noConfusion h) (.int 1) hone
    refine ⟨t, call, ht, hcalls, hparse, ?_⟩
    rw [hparse]
    show some (Json.int 1) ≠ some (.obj _)
    simp
  · intro reply
    have hread : Json.read "1" = .ok (.int 1) := by cbv
    have htells : reply.Tells (answered reply).outside.codecs (.int 1) :=
      (Reply.tells_iff_of_isAscii rfl rfl (by decide +kernel)).2 (Or.inl hread)
    obtain ⟨t, ht, -⟩ :=
      exists_afterSaving [] [] "http://api.example/\n" rfl (by decide) htells
    have hnone : Call.ofStep? ⟨"http://api.example/\n", "POST", some "\x7b\x7bv\x7d\x7d", [], none, []⟩
        (t.begin (sending "http://api.example/\n")).session = none := by
      refine Option.not_isSome_iff_eq_none.1 fun hsome => ?_
      obtain ⟨url, hurl⟩ := (Call.isSome_ofStep?_iff.1 hsome).address
      have herror : Address.ofText "http://api.example/\n" = .error .notAddress := rfl
      rw [show Address.ofText "http://api.example/\n" = .ok url from hurl] at herror
      cases herror
    refine ⟨t, ht, ?_⟩
    rw [afterSending, Turn.calls_pass_request rfl,
      Turn.calls_request_of_ofStep?_eq_none _ _ _ rfl hnone, Turn.calls_begin]

end Bot

end ChatFlow
