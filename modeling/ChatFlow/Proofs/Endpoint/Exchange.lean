import ChatFlow.Endpoint.Call

/-!
# Calls that can be made, replies that can be read

`Call.Sendable` names what a request step needs for its call, one condition per part of the call;
`Reply.Tells` is what a reply is taken for. `Call.isSome_ofStep?_iff` and `Reply.content?_eq_some_iff`
say that the two functions of these parts ask for nothing else.
-/

namespace ChatFlow

@[simp] theorem Json.encode_null : Json.null.encode = .ok "null" := by
  have : Text.isEncodable "null" = true := by decide +kernel
  simp [Json.encode, Json.isFinite, show Json.null.render = "null" from rfl, this]

namespace Endpoint

variable {r : Step.Request} {s : Session}

/-! ### Calls -/

/-- A text that can be the body of a call: it is blank, or JSON that can be written again. -/
def IsBody (text : String) : Prop :=
  Text.allBlank text ∨ ∃ v written, Json.parse text = some v ∧ v.encode = .ok written

/-- A request step whose call can be made. -/
structure Call.Sendable (r : Step.Request) (s : Session) : Prop where
  body : IsBody (s.fillOption r.body)
  address : ∃ url, Address.ofText r.url = .ok url
  headers : ∀ e ∈ Assoc.ofEntries (r.headers.map fun h => (h.key, h.value)),
    isAscii e.1 ∧ isAscii e.2

theorem isSome_headers?_iff (hs : List Step.Header) (hasBody : Bool) :
    (headers? hs hasBody).isSome ↔
      ∀ e ∈ Assoc.ofEntries (hs.map fun h => (h.key, h.value)), isAscii e.1 ∧ isAscii e.2 := by
  simp [headers?]

/-- A payload comes from a body, and its text can be written exactly if the body's value can. -/
theorem isBody_iff (text : String) : IsBody text ↔
    ∃ p, payload? text = some p ∧ ∀ v, p = some v → ∃ written, v.encode = .ok written := by
  unfold IsBody payload?
  split
  · rename_i hb
    exact ⟨fun _ => ⟨none, rfl, nofun⟩, fun _ => Or.inl hb⟩
  · rename_i hb
    constructor
    · rintro (hblank | ⟨v, written, hv, hw⟩)
      · exact absurd hblank hb
      · rw [hv]
        cases v with
        | null => exact ⟨none, rfl, nofun⟩
        | _ => exact ⟨_, rfl, fun _ h => by cases h; exact ⟨written, hw⟩⟩
    · rintro ⟨p, hp, hw⟩
      split at hp
      · rename_i hv
        exact Or.inr ⟨_, _, hv, Json.encode_null⟩
      · rename_i v _ hv
        cases hp
        obtain ⟨written, hw⟩ := hw v rfl
        exact Or.inr ⟨v, written, hv, hw⟩
      · cases hp

theorem Call.isSome_ofStep?_iff : (Call.ofStep? r s).isSome ↔ Call.Sendable r s := by
  constructor
  · intro h
    obtain ⟨call, hc⟩ := Option.isSome_iff_exists.1 h
    simp only [Call.ofStep?, Option.bind_eq_bind, Option.bind_eq_some_iff] at hc
    obtain ⟨p, hp, url, hurl, hs, hhs, hc⟩ := hc
    refine ⟨(isBody_iff _).2 ⟨p, hp, ?_⟩, ?_, ?_⟩
    · rintro v rfl
      cases hv : v.encode with
      | error f => simp [hv, Except.toOption] at hc
      | ok w => exact ⟨w, rfl⟩
    · cases ha : Address.ofText r.url with
      | error f => rw [ha] at hurl; cases hurl
      | ok u => exact ⟨u, rfl⟩
    · exact (isSome_headers?_iff _ _).1 (by rw [hhs]; rfl)
  · rintro ⟨hb, ⟨url, hurl⟩, hh⟩
    obtain ⟨p, hp, hw⟩ := (isBody_iff _).1 hb
    obtain ⟨hs, hhs⟩ := Option.isSome_iff_exists.1 ((isSome_headers?_iff r.headers p.isSome).2 hh)
    have hurl' : (Address.ofText r.url).toOption = some url := by rw [hurl]; rfl
    simp only [Call.ofStep?, Option.bind_eq_bind]
    rw [hp, Option.bind_some, hurl', Option.bind_some, hhs, Option.bind_some]
    cases p with
    | none => rfl
    | some v =>
      obtain ⟨w, hw⟩ := hw v rfl
      simp [hw, Except.toOption]

/-! ### Replies -/

/-- What a reply is taken for, whatever its status: the JSON of its bytes, or else their text. There
is neither if the bytes cannot be unpacked, if the JSON is too deep, or if the codec of their charset
fails on them. -/
inductive Reply.Tells (r : Reply) (codecs : Text.Codecs) : Json → Prop
  | json {bytes : List UInt8} {v : Json} : r.bytes = .ok bytes → Json.readBody bytes = .ok v →
      r.Tells codecs v
  | text {bytes : List UInt8} {f : Fault} {s : String} : r.bytes = .ok bytes →
      Json.readBody bytes = .error f → f ≠ .tooDeep → r.text? codecs bytes = some s →
      r.Tells codecs (.str s)

variable {r : Reply} {codecs : Text.Codecs} {v : Json}

theorem Reply.data_eq_ok_iff {bytes : List UInt8} :
    r.data codecs bytes .str = .ok v ↔ Json.readBody bytes = .ok v ∨
      ∃ f s, Json.readBody bytes = .error f ∧ f ≠ .tooDeep ∧ r.text? codecs bytes = some s ∧
        v = .str s := by
  unfold Reply.data
  split
  · rename_i w hw
    simp [hw]
  · rename_i hw
    simp [hw]
  · rename_i f hf hw
    rw [hw]
    cases ht : r.text? codecs bytes with
    | none => simp
    | some s =>
      constructor
      · intro h
        cases h
        exact Or.inr ⟨f, s, rfl, hf, rfl, rfl⟩
      · rintro (h | ⟨_, _, -, -, h, rfl⟩)
        · cases h
        · cases h; rfl

theorem Reply.content?_eq_some_iff :
    r.content? codecs = some v ↔ (200 ≤ r.status ∧ r.status < 300) ∧ r.Tells codecs v := by
  unfold Reply.content?
  constructor
  · intro h
    split at h
    · rename_i hstatus
      refine ⟨hstatus, ?_⟩
      split at h
      · rename_i bytes hbytes
        cases hd : r.data codecs bytes .str with
        | error f => rw [hd] at h; cases h
        | ok w =>
          rw [hd] at h; cases h
          rcases data_eq_ok_iff.1 hd with hj | ⟨f, s, hj, hf, hs, rfl⟩
          · exact .json hbytes hj
          · exact .text hbytes hj hf hs
      · cases h
    · cases h
  · rintro ⟨hstatus, ht⟩
    have hd : ∃ bytes, r.bytes = .ok bytes ∧ r.data codecs bytes .str = .ok v := by
      cases ht with
      | json hbytes hj => exact ⟨_, hbytes, data_eq_ok_iff.2 (Or.inl hj)⟩
      | text hbytes hj hf hs => exact ⟨_, hbytes, data_eq_ok_iff.2 (Or.inr ⟨_, _, hj, hf, hs, rfl⟩)⟩
    obtain ⟨bytes, hbytes, hd⟩ := hd
    rw [if_pos hstatus, hbytes]
    simp [hd, Except.toOption]

end Endpoint

end ChatFlow
