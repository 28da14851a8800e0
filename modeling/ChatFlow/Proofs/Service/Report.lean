import ChatFlow.Proofs.Inbox.Accounting
import ChatFlow.Proofs.Inbox.Faults
import ChatFlow.Proofs.Json.Writing
import ChatFlow.Service

/-!
# Reports of the provider

Whatever the provider reports, it is answered with status 200 (`status_takeReport`), for the answer has
an encoding: receipts are written in ASCII, and no fault of a report is told in words from outside just
as they came. `reports_are_accounted_for` adds what becomes of the messages of a report that can be
read.
-/

namespace ChatFlow

namespace Service

open Text (IsAscii isWhole_of_isAscii)

theorem status_json {v : Json} {status : Nat} (h : v.Exact) : (json v status).status = status := by
  rw [json, h.encode_eq]

theorem status_failed {words : String} (h : Text.isEncodable words) :
    (json (.obj [("status", .str "error"), ("message", .str words)])).status = 200 := by
  refine status_json (.obj ?_ ?_)
  · simp only [List.forall_mem_cons, List.not_mem_nil, false_implies, implies_true, and_true]
    exact ⟨by decide +kernel, by decide +kernel⟩
  · simp only [List.forall_mem_cons, List.not_mem_nil, false_implies, implies_true, and_true]
    exact ⟨.str (by decide +kernel), .str h⟩

theorem status_receipt {r : Inbox.Receipt}
    (h : IsAscii r.status.toList ∧ IsAscii r.message.toList) : (json r.toJson).status = 200 := by
  refine status_json (.obj ?_ ?_)
  · simp only [List.forall_mem_cons, List.not_mem_nil, false_implies, implies_true, and_true]
    exact ⟨by decide +kernel, by decide +kernel, by decide +kernel⟩
  · simp only [List.forall_mem_cons, List.not_mem_nil, false_implies, implies_true, and_true]
    exact ⟨.str (isWhole_of_isAscii h.1), .str (isWhole_of_isAscii h.2), .int _⟩

theorem isAscii_of_receive {σ : Type} {a : Archive σ} {now : String} {bot : Option String} {s : σ}
    {batch : Json} {r : Inbox.Receipt} {ms : List Message}
    (h : (Inbox.receive a now bot s batch).1 = .ok (r, ms)) :
    IsAscii r.status.toList ∧ IsAscii r.message.toList := by
  have hsuccess : IsAscii "success".toList := by decide +kernel
  unfold Inbox.receive at h
  split at h
  · cases h
  · split at h
    · split at h
      · cases h
      · cases h; exact ⟨by decide +kernel, by decide +kernel⟩
      · cases h; exact ⟨hsuccess, by dsimp only; decide +kernel⟩
    · cases h; exact ⟨by decide +kernel, by decide +kernel⟩

variable {κ ε σ : Type}

/-- Every report is answered with status 200, whatever it consists of. -/
theorem status_takeReport (s : Service κ ε σ) (w : Channel.World κ σ) (body : List UInt8) :
    (s.takeReport w body).1.status = 200 := by
  unfold takeReport
  dsimp only
  split
  · rename_i f hf
    dsimp only
    exact status_failed (s.phrasing.isEncodable body f ((Json.quoteless_readBody body).fault hf))
  · rename_i batch _
    have hquoteless := Inbox.quoteless_receive s.channel.archive w.now s.settings.botPhoneNumberId
      w.records batch
    split
    · rename_i receipt messages log records h
      dsimp only
      exact status_receipt (isAscii_of_receive (congrArg (·.1) h))
    · rename_i f log records h
      rw [h] at hquoteless
      dsimp only
      exact status_failed (s.phrasing.isEncodable body f (hquoteless.fault rfl))

theorem status_answer_report (s : Service κ ε σ) (st : State κ ε σ) (now : Instant) (time : String)
    (query : Assoc String) (body : List UInt8) :
    ∃ r, (s.answer st now time ⟨"POST", "/webhook".toList, query, body⟩).1 = .response r ∧
      r.status = 200 := by
  have hroute : Request.route ⟨"POST", "/webhook".toList, query, body⟩ = .found .webhook := by
    have hpath : Resource.ofPath "/webhook".toList = some .webhook := by decide +kernel
    rw [Request.route, hpath]
    rfl
  rw [answer, hroute]
  exact ⟨(s.takeReport st.world.channel body).1, rfl, s.status_takeReport st.world.channel body⟩

/-- Reports are accounted for. The messages that are found in a report belong to those of its elements
that have a sender, one to each and in their order. Each of them is tried to be kept once, as a
message of a customer, and those for the number of the bot are handed to it, all of them if it has
none, each once and in their order; the archive decides neither. The receipt says how many there are.
And whatever is posted as a report, it is answered with status 200. -/
theorem reports_are_accounted_for :
    (∀ (batch : Json) (ms : List Message) (log : List Log.Entry),
      batch.member "object" = .ok (.str "whatsapp_business_account") →
      Inbox.extract batch = (.ok ms, log) →
      (∃ es, Inbox.elements? batch = some es ∧
        List.Forall₂ Inbox.Reports (es.filter Inbox.Element.hasSender) ms) ∧
      ∀ (σ : Type) (a : Archive σ) (now : String) (bot : Option String) (s : σ),
        ∃ (message : String) (entries : List Log.Entry) (kept : σ) (tries : List Attempt),
          let forBot := ms.filter fun m => bot = none ∨ bot = some "" ∨ m.phoneNumberId = bot
          Inbox.receive a now bot s batch =
              (.ok (⟨"success", message, ms.length⟩, forBot), entries, kept) ∧
            Inbox.receive a.traced now bot (s, []) batch =
              (.ok (⟨"success", message, ms.length⟩, forBot), entries, kept, tries) ∧
            tries = ms.map (Inbox.attempt now) ∧
            ∀ t ∈ tries, Assoc.get? t.record "sender" = some (.str "customer")) ∧
    ∀ (κ ε σ : Type) (s : Service κ ε σ) (st : State κ ε σ) (now : Instant) (time : String)
      (query : Assoc String) (body : List UInt8),
      ∃ r, (s.answer st now time ⟨"POST", "/webhook".toList, query, body⟩).1 = .response r ∧
        r.status = 200 := by
  refine ⟨fun batch ms log hobject hfound => ⟨Inbox.reports_of_extract hfound, ?_⟩,
    fun κ ε σ s st now time query body => status_answer_report s st now time query body⟩
  intro σ a now bot s
  obtain ⟨message, entries, kept, hplain, htraced⟩ :=
    Inbox.receive_of_extract a now bot hobject hfound s
  have hbot : ms.filter (Inbox.isForBot bot) =
      ms.filter fun m => bot = none ∨ bot = some "" ∨ m.phoneNumberId = bot :=
    List.filter_congr fun m _ => by
      rw [Bool.eq_iff_iff, Inbox.isForBot_iff, decide_eq_true_iff]
  rw [hbot] at hplain htraced
  refine ⟨message, entries, kept, ms.map (Inbox.attempt now), hplain, htraced, rfl, fun t ht => ?_⟩
  obtain ⟨m, -, rfl⟩ := List.mem_map.1 ht
  rfl

/-- A report of two messages, of which the first has no sender, and an archive that keeps nothing.
The second is found with the second contact, tried to be kept, counted and handed to the bot all the
same. -/
theorem reports_are_accounted_for_store_down :
    let contacts : Json := .arr [.obj [("profile", .obj [("name", .str "Ada")])],
      .obj [("profile", .obj [("name", .str "Bo")])]]
    let metadata : Json := .obj [("phone_number_id", .str "1")]
    let nobody : Json := .obj [("id", .str "m1")]
    let hello : Json := .obj [("from", .str "8"), ("id", .str "m2"), ("type", .str "text"),
      ("text", .obj [("body", .str "hello")])]
    let change : Json := .obj [("field", .str "messages"), ("value", .obj [("metadata", metadata),
      ("contacts", contacts), ("messages", .arr [nobody, hello])])]
    let batch : Json := .obj [("object", .str "whatsapp_business_account"),
      ("entry", .arr [.obj [("changes", .arr [.obj [("field", .str "statuses")], change])]])]
    let down : Archive Unit :=
      ⟨fun s _ _ _ _ => (.error .storeDown, [], s), fun _ => [], fun s _ => ([], s)⟩
    let m : Message := ⟨some "m2", "8", "hello", "Bo", "text", some "1", none, .null, .null, .null⟩
    let taken := Inbox.receive down.traced "12:00" (some "1") ((), []) batch
    (Inbox.extract batch).1 = .ok [m] ∧ Inbox.Reports ⟨hello, 1, contacts, metadata⟩ m ∧
      (∃ message, taken.1 = .ok (⟨"success", message, 1⟩, [m])) ∧
      taken.2.2.2 = [Inbox.attempt "12:00" m] := by
  intro contacts metadata nobody hello change batch down m taken
  have hobject : batch.member "object" = .ok (.str "whatsapp_business_account") := rfl
  have hfound : Inbox.extract batch = (.ok [m], (Inbox.extract batch).2) := rfl
  obtain ⟨⟨es, hes, hreports⟩, hkept⟩ := reports_are_accounted_for.1 batch [m] _ hobject hfound
  have hes' : Inbox.elements? batch =
      some [⟨nobody, 0, contacts, metadata⟩, ⟨hello, 1, contacts, metadata⟩] := rfl
  rw [hes'] at hes
  cases hes
  obtain ⟨message, entries, kept, tries, -, htraced, htries, -⟩ :=
    hkept Unit down "12:00" (some "1") ()
  have htaken : taken = _ := htraced
  refine ⟨rfl, ?_, ⟨message, ?_⟩, ?_⟩
  · cases hreports with
    | cons hm _ => exact hm
  · rw [htaken]; rfl
  · rw [htaken, htries]; rfl

end Service

end ChatFlow
