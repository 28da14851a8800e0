import ChatFlow.Endpoint.Call
import ChatFlow.Proofs.Template.Body
import ChatFlow.Workflow.Bundled
import Mathlib

/-!
# What a call sends of a template

The body of a call is a template filled in for a session. If the template is JSON with placeholders
inside of its texts only, and what comes in their place needs no escapes, the payload is the value of
the template with its texts filled in. A value that would need escapes is put in as it is, and can
add a field to the payload.
-/

namespace ChatFlow

open Json Json.Reader Template

namespace Json

variable {t : String} {v : Json}

/-- A value as a payload: null is none. -/
def payload : Json → Option Json
  | null => none
  | v => some v

theorem not_isBlank_of_isNumeric {c : Char} (h : isNumeric c = true) : Text.isBlank c = false := by
  have hbounds : 43 ≤ c.toNat ∧ c.toNat ≤ 122 := by
    simp only [isNumeric, Char.isAlphanum, Char.isAlpha, Char.isUpper, Char.isLower, Char.isDigit,
      Bool.or_eq_true, Bool.and_eq_true, decide_eq_true_eq, beq_iff_eq, ge_iff_le,
      UInt32.le_iff_toNat_le, Char.reduceVal, UInt32.reduceToNat] at h
    rcases h with ((((h | h) | h) | rfl) | rfl) | rfl
    · rw [Char.toNat]; omega
    · rw [Char.toNat]; omega
    · rw [Char.toNat]; omega
    · decide
    · decide
    · decide
  simp only [Text.isBlank, Bool.or_eq_false_iff, Bool.and_eq_false_iff, decide_eq_false_iff_not,
    beq_eq_false_iff_ne]
  omega

theorem not_isBlank_of_starts {c : Char} (h : starts c = true) : Text.isBlank c = false := by
  simp only [starts, Bool.or_eq_true, beq_iff_eq] at h
  rcases h with ((h | rfl) | rfl) | rfl
  · exact not_isBlank_of_isNumeric h
  · rfl
  · rfl
  · rfl

theorem not_allBlank_of_parse (h : parse t = some v) : Text.allBlank t = false := by
  have hadmits : Admits Spells Spells t.toList := fun l _ s hs => by split <;> exact hs
  obtain ⟨r, hreads, -⟩ := reads_of_parse (fun b s h => h) (fun b s h => h) hadmits h
  obtain ⟨c, cs, hcs, hc⟩ := hreads.starts_head
  have hmem : c ∈ t.toList := by
    refine (List.dropWhile_sublist Reader.isBlank).subset ?_
    rw [← skip, hcs]
    exact List.mem_cons_self
  exact List.all_eq_false.2 ⟨c, hmem, by simp [not_isBlank_of_starts hc]⟩

end Json

namespace Endpoint

variable {r : Step.Request} {s : Session} {t : String} {v : Json}

theorem payload?_of_parse (h : Json.parse t = some v) : payload? t = some v.payload := by
  rw [payload?, not_allBlank_of_parse h, h]
  cases v <;> rfl

theorem Call.body_of_ofStep? {c : Call} {p : Option Json} (h : Call.ofStep? r s = some c)
    (hp : payload? (s.fillOption r.body) = some p) :
    (p = none → c.body = "") ∧ ∀ w, p = some w → w.encode = .ok c.body := by
  simp only [Call.ofStep?, Option.bind_eq_bind, hp, Option.bind_some, Option.bind_eq_some_iff] at h
  obtain ⟨url, -, headers, -, h⟩ := h
  cases p with
  | none => cases h; exact ⟨fun _ => rfl, nofun⟩
  | some w =>
    obtain ⟨body, hbody, h⟩ := Option.bind_eq_some_iff.1 h
    cases h
    refine ⟨nofun, fun w' hw' => ?_⟩
    cases hw'
    cases he : w.encode with
    | error f => rw [he] at hbody; cases hbody
    | ok written => rw [he] at hbody; cases hbody; rfl

/-! ### The request of an order's status -/

/-- The body of the request that the bundled workflow makes. -/
def orderBody : String :=
  "\x7b\"order_id\": \"\x7b\x7border_id\x7d\x7d\", " ++
    "\"phone\": \"\x7b\x7bcontact.phone_number\x7d\x7d\"\x7d"

def orderRequest : Step.Request where
  url := "https://api.goldenticket.example/orders/status"
  method := "POST"
  body := some orderBody
  headers := [⟨"Content-Type", "application/json"⟩]
  saveResponse := some ⟨true, some "order_raw", false, none⟩
  responseMap := [⟨"order_status", "status"⟩]

/-- A session in which the customer has said which order it is. -/
def orderSession (answer : String) : Session :=
  { Session.start (.ofInt 0) "966500000001" "Sara" with vars := [("order_id", answer)] }

theorem decode_lookupOrder :
    Step.Request.decode (.obj Workflow.Bundled.lookupOrder) = .ok orderRequest := rfl

theorem parse_orderBody : Json.parse orderBody = some (.obj
    [("order_id", .str "\x7b\x7border_id\x7d\x7d"),
      ("phone", .str "\x7b\x7bcontact.phone_number\x7d\x7d")]) := by
  cbv

theorem inTexts_orderBody : InTexts orderBody := ⟨by decide +kernel, by decide +kernel⟩

/-! ### Payloads -/

/-- The payload of a call is the value of its template with the texts filled in, and has the shape of
the template, whatever the session says without quotes, backslashes and control characters. -/
theorem filled_payload_keeps_shape (hbody : r.body = some t) (hread : Json.parse t = some v)
    (hin : InTexts t) (hplain : ∀ new ∈ s.inserted t, Plain new) :
    Json.parse (s.fillOption r.body) = some (v.mapTexts s.fill) ∧
    payload? (s.fillOption r.body) = some (v.mapTexts s.fill).payload ∧
    (v.mapTexts s.fill).shape = v.shape ∧
    ∀ c, Call.ofStep? r s = some c →
      ((v.mapTexts s.fill).payload = none → c.body = "") ∧
      ∀ w, (v.mapTexts s.fill).payload = some w → w.encode = .ok c.body := by
  have hfill : s.fillOption r.body = s.fill t := by rw [hbody]; rfl
  have hparse : Json.parse (s.fillOption r.body) = some (v.mapTexts s.fill) := by
    rw [hfill]
    exact parse_fill hin hplain hread
  have hpayload := payload?_of_parse hparse
  exact ⟨hparse, hpayload, shape_mapTexts _ v, fun c hc => Call.body_of_ofStep? hc hpayload⟩

theorem filled_payload_keeps_shape_of_order :
    Step.Request.decode (.obj Workflow.Bundled.lookupOrder) = .ok orderRequest ∧
      orderRequest.body = some orderBody ∧ InTexts orderBody ∧
      (∀ new ∈ (orderSession "A-17, please").inserted orderBody, Plain new) ∧
      payload? ((orderSession "A-17, please").fillOption orderRequest.body) = some (some (.obj
        [("order_id", .str "A-17, please"), ("phone", .str "966500000001")])) := by
  have hplain : ∀ new ∈ (orderSession "A-17, please").inserted orderBody, Plain new := by
    decide +kernel
  have hall := filled_payload_keeps_shape (r := orderRequest) rfl parse_orderBody
    inTexts_orderBody hplain
  have horder : (orderSession "A-17, please").fill "\x7b\x7border_id\x7d\x7d" =
      "A-17, please" := by decide +kernel
  have hphone : (orderSession "A-17, please").fill "\x7b\x7bcontact.phone_number\x7d\x7d" =
      "966500000001" := by decide +kernel
  refine ⟨decode_lookupOrder, rfl, inTexts_orderBody, hplain, hall.2.1.trans ?_⟩
  simp only [Json.mapTexts, mapFields, horder, hphone]
  rfl

/-- An answer with a quote can add a field to the payload, or leave none; and a brace that is written
as an escape is one only when the template has been read. -/
theorem quote_changes_payload :
    let value : Json := .obj [("order_id", .str "\x7b\x7border_id\x7d\x7d"),
      ("phone", .str "\x7b\x7bcontact.phone_number\x7d\x7d")]
    let sent : Json := .obj [("order_id", .str "1"), ("vip", .str "yes"),
      ("phone", .str "966500000001")]
    let escaped := "[\"\\u007b\x7border_id\x7d\x7d\"]"
    Json.parse orderBody = some value ∧ InTexts orderBody ∧
      payload? ((orderSession "1\", \"vip\": \"yes").fillOption orderRequest.body) =
        some (some sent) ∧
      sent.shape ≠ value.shape ∧
      payload? ((orderSession "\"").fillOption orderRequest.body) = none ∧
      Json.parse escaped = some (.arr [.str "\x7b\x7border_id\x7d\x7d"]) ∧
      (orderSession "1").fill "\x7b\x7border_id\x7d\x7d" = "1" ∧
      (orderSession "1").fill escaped = escaped := by
  intro value sent escaped
  have hvip : (orderSession "1\", \"vip\": \"yes").fill orderBody =
      "\x7b\"order_id\": \"1\", \"vip\": \"yes\", \"phone\": \"966500000001\"\x7d" := by
    decide +kernel
  have hquote : (orderSession "\"").fill orderBody =
      "\x7b\"order_id\": \"\"\", \"phone\": \"966500000001\"\x7d" := by
    decide +kernel
  refine ⟨parse_orderBody, inTexts_orderBody, ?_, ?_, ?_, by cbv, by decide +kernel,
    by decide +kernel⟩
  · show payload? ((orderSession "1\", \"vip\": \"yes").fill orderBody) = some sent.payload
    rw [hvip]
    exact payload?_of_parse (by cbv)
  · intro h
    exact absurd (congrArg (fun w => (w.field? "vip").isSome) h) (by decide)
  · show payload? ((orderSession "\"").fill orderBody) = none
    rw [hquote, payload?, if_neg (by decide +kernel)]
    cbv

end Endpoint

end ChatFlow
