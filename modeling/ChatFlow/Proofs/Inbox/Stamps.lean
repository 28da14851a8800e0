import ChatFlow.Proofs.Inbox.Course
import ChatFlow.Proofs.Inbox.Names
import ChatFlow.Proofs.Inbox.Neighbours

/-!
# Stamps of messages

Nobody asks for the stamp of a message: no record holds it, and the bot is not told. What comes of a
batch (`outcome`) is what comes of it without stamps, unless one is refused (`outcome_unstamped`). A
stamp is refused if it stands for a time that no clock or no calendar reaches (`Timestamp.IsRefused`),
and then the search stops at its message: nothing of the batch is kept or handed on. So batches that
differ in their stamps only come to the same exactly if they are refused alike
(`stamps_do_not_count_iff`).
-/

namespace ChatFlow

/-! ### Times out of reach -/

namespace Timestamp

/-- That a stamp is refused, and with which fault. -/
inductive IsRefused : Json → Fault → Prop
  | infinite {x : Float} {negative : Bool} (hx : Binary64.Parts.of x = .infinite negative) :
    IsRefused (.float x) .timeOverflow
  /-- The clock counts in sixty-four bits. -/
  | overflow {v : Json} {n : Int} (hv : seconds? v = .ok (some n))
    (hn : n < -(Nat.pow 2 63) ∨ Nat.pow 2 63 ≤ n) : IsRefused v .timeOverflow
  /-- The calendar counts years in thirty-two bits. -/
  | noCalendar {v : Json} {n : Int} (hv : seconds? v = .ok (some n))
    (hclock : -(Nat.pow 2 63) ≤ n ∧ n < Nat.pow 2 63)
    (hn : n ≤ -67768040609740801 ∨ 67768036191676800 ≤ n) : IsRefused v .noCalendar

theorem IsRefused.not_isOfShape {v : Json} {f : Fault} (h : IsRefused v f) : ¬ f.isOfShape := by
  cases h <;> exact Bool.false_ne_true

theorem seconds?_eq_error_iff {v : Json} {f : Fault} :
    seconds? v = .error f ↔
      ∃ x negative, v = .float x ∧ Binary64.Parts.of x = .infinite negative ∧ f = .timeOverflow := by
  constructor
  · intro h
    unfold seconds? at h
    split at h
    · cases h
    · cases h
    · cases h
    · split at h
      · rename_i negative hx
        cases h
        exact ⟨_, negative, rfl, hx, rfl⟩
      · cases h
    · cases h
  · rintro ⟨x, negative, rfl, hx, rfl⟩
    simp only [seconds?, hx]

theorem text?_eq_error_iff {n : Int} {f : Fault} :
    text? n = .error f ↔
      (n < -(Nat.pow 2 63) ∨ Nat.pow 2 63 ≤ n) ∧ f = .timeOverflow ∨
      (-(Nat.pow 2 63) ≤ n ∧ n < Nat.pow 2 63) ∧ (n ≤ -67768040609740801 ∨ 67768036191676800 ≤ n) ∧
        f = .noCalendar := by
  unfold text?
  simp only [Bool.or_eq_true, decide_eq_true_eq]
  split
  · rename_i hfar
    constructor
    · rintro ⟨⟩
      exact .inl ⟨hfar, rfl⟩
    · rintro (⟨-, rfl⟩ | ⟨hclock, -, -⟩)
      · rfl
      · omega
  · rename_i hclock
    split
    · rename_i hyear
      constructor
      · rintro ⟨⟩
        exact .inr ⟨by omega, hyear, rfl⟩
      · rintro (⟨hfar, -⟩ | ⟨-, -, rfl⟩)
        · exact absurd hfar hclock
        · rfl
    · rename_i hyear
      constructor
      · intro h
        split at h <;> cases h
      · rintro (⟨hfar, -⟩ | ⟨-, hn, -⟩)
        · exact absurd hfar hclock
        · exact absurd hn hyear

theorem format_eq_error_iff {v : Json} {f : Fault} : format v = .error f ↔ IsRefused v f := by
  constructor
  · intro h
    cases hv : seconds? v with
    | error g =>
      rw [format, hv] at h
      cases h
      obtain ⟨x, negative, rfl, hx, rfl⟩ := seconds?_eq_error_iff.1 hv
      exact .infinite hx
    | ok n =>
      rw [format, hv] at h
      cases n with
      | none => cases h
      | some n =>
        rcases text?_eq_error_iff.1 h with ⟨hn, rfl⟩ | ⟨hclock, hn, rfl⟩
        · exact .overflow hv hn
        · exact .noCalendar hv hclock hn
  · intro h
    cases h with
    | infinite hx =>
      rw [format, seconds?_eq_error_iff.2 ⟨_, _, rfl, hx, rfl⟩]
      rfl
    | overflow hv hn =>
      rw [format, hv]
      exact text?_eq_error_iff.2 (.inl ⟨hn, rfl⟩)
    | noCalendar hv hclock hn =>
      rw [format, hv]
      exact text?_eq_error_iff.2 (.inr ⟨hclock, hn, rfl⟩)

end Timestamp

/-! ### Messages without stamps -/

namespace Message

def unstamped (m : Message) : Message := { m with timestamp := none }

/-- What the bot is called with for a message. -/
def call (m : Message) : String × String × String := (m.conversation, m.text, m.displayName)

end Message

theorem Schema.Checked.map_seq {α β γ : Type} (g : β → γ) (f : Schema.Checked (α → β))
    (x : Schema.Checked α) : g <$> (f <*> x) = ((g ∘ ·) <$> f) <*> x := by
  cases f <;> cases x <;> rfl

theorem Schema.Checked.map_map {α β γ : Type} (g : β → γ) (f : α → β) (x : Schema.Checked α) :
    g <$> (f <$> x) = (g ∘ f) <$> x := by
  cases x <;> rfl

namespace Inbox

theorem check_none (id conversation text name type number : Json) (time : Option String) :
    check id conversation text name type number none =
      Message.unstamped <$> check id conversation text name type number time := by
  simp only [check, Schema.Checked.map_seq, Schema.Checked.map_map]
  rfl

theorem withMedia_unstamped (m : Message) (raw : Json) :
    withMedia m.unstamped raw = Message.unstamped <$> withMedia m raw := by
  have htype : m.unstamped.type = m.type := rfl
  rw [withMedia, withMedia, htype]
  split
  · simp only [map_bind, map_pure]
    rfl
  · rfl

/-- Put a message together, once it is known how its sender is called and when it was written. -/
def compose (raw sender number text name : Json) (time : Option String) : Except Fault Message := do
  match check (← raw.member "id") sender text name (← raw.member "type" (.str "unknown")) number
      time with
  | .ok m => withMedia m raw
  | .bad i is => .error (.invalid (i :: is))

theorem read_eq (raw sender contact number text : Json) :
    read raw sender contact number text = (do
      let name ← shownName contact
      let time ← Timestamp.format (← raw.member "timestamp")
      compose raw sender number text name time) := by
  rw [read, shownName]
  cases contact.memberObject "profile" with
  | error f => rfl
  | ok profile =>
    show (profile.member "name" >>= _) = (profile.member "name" >>= _) >>= _
    cases profile.member "name" <;> rfl

theorem compose_none (raw sender number text name : Json) (time : Option String) :
    compose raw sender number text name none =
      Message.unstamped <$> compose raw sender number text name time := by
  simp only [compose, map_bind]
  refine bind_congr fun id => bind_congr fun type => ?_
  rw [check_none id sender text name type number time]
  cases check id sender text name type number time with
  | ok m => exact withMedia_unstamped m raw
  | bad i is => rfl

/-! ### Elements without stamps -/

/-- What was found, without stamps. -/
def Found.unstamped (x : Found) : Found := (x.1.map (List.map Message.unstamped), x.2)

theorem unstamped_findIn {α : Type} (r : Except Fault α) (f : α → Found) :
    (findIn r f).unstamped = findIn r fun a => (f a).unstamped := by
  cases r <;> rfl

theorem member_unstampedMessage {k : String} (hk : "timestamp" ≠ k) (raw d : Json) :
    (unstampedMessage raw).member k d = raw.member k d :=
  Json.member_without_of_ne hk raw d

theorem memberObject_unstampedMessage {k : String} (hk : "timestamp" ≠ k) (raw : Json) :
    (unstampedMessage raw).memberObject k = raw.memberObject k := by
  rw [Json.memberObject, member_unstampedMessage hk, ← Json.memberObject]

/-- What a message says does not hang on its stamp, not even if it says that it is one. -/
theorem content_unstampedMessage (raw : Json) : content (unstampedMessage raw) = content raw := by
  cases raw with
  | obj fields =>
    rw [content, content, member_unstampedMessage (by decide)]
    cases (Json.obj fields).member "type" with
    | error f => simp only [bind, Except.bind]
    | ok type =>
      cases type with
      | str t =>
        by_cases ht : "timestamp" = t
        · -- The body is then the stamp, which nothing is read from.
          subst ht
          simp [bind, Except.bind, Json.memberObject, Json.member, unstampedMessage, Json.without,
            Json.text?, pure, Except.pure]
        · simp only [bind, Except.bind, memberObject_unstampedMessage ht]
      | _ => simp only [bind, Except.bind]
  | _ => rfl

theorem withMedia_unstampedMessage (m : Message) (raw : Json) :
    withMedia m (unstampedMessage raw) = withMedia m raw := by
  unfold withMedia
  split
  · rename_i hmedia
    have hne : "timestamp" ≠ m.type := by
      intro h
      rw [← h] at hmedia
      exact absurd hmedia (by decide)
    rw [memberObject_unstampedMessage hne]
  · rfl

theorem compose_unstampedMessage (raw sender number text name : Json) (time : Option String) :
    compose (unstampedMessage raw) sender number text name time =
      compose raw sender number text name time := by
  simp only [compose, member_unstampedMessage (k := "id") (by decide),
    member_unstampedMessage (k := "type") (by decide), withMedia_unstampedMessage]

theorem member_timestamp_unstampedMessage (fields : Assoc Json) :
    (unstampedMessage (.obj fields)).member "timestamp" = .ok .null := by
  simp only [unstampedMessage, Json.without, Json.member, Assoc.get?_erase, if_true, Option.getD_none]

/-- A message is read without its stamp as it is with it, unless the stamp is refused. -/
theorem read_unstampedMessage {raw contact : Json}
    (h : ∀ name stamp f, shownName contact = .ok name → raw.member "timestamp" = .ok stamp →
      ¬ Timestamp.IsRefused stamp f) (sender number text : Json) :
    read (unstampedMessage raw) sender contact number text =
      Message.unstamped <$> read raw sender contact number text := by
  rw [read_eq, read_eq]
  simp only [compose_unstampedMessage, bind, Except.bind]
  cases hname : shownName contact with
  | error f => rfl
  | ok name =>
    dsimp only
    cases raw with
    | obj fields =>
      rw [member_timestamp_unstampedMessage]
      cases hstamp : (Json.obj fields).member "timestamp" with
      | error f => cases hstamp
      | ok stamp =>
        dsimp only
        cases htime : Timestamp.format stamp with
        | error f => exact absurd (Timestamp.format_eq_error_iff.1 htime) (h name stamp f hname hstamp)
        | ok time => exact compose_none (.obj fields) sender number text name time
    | _ => rfl

namespace Element

/-- That a search which comes to an element comes to its stamp: what is read before can be read. -/
structure ComesToStamp (e : Element) : Prop where
  sender : e.hasSender
  contact : ∃ contact, (e.contacts.ifEmpty (.arr [])).itemAt? e.position = .ok contact ∧
    ∃ name, shownName (contact.getD (.obj [])) = .ok name
  number : ∃ number, (e.metadata.ifEmpty (.obj [])).member "phone_number_id" = .ok number
  text : ∃ said, content e.raw = .ok said

/-- That an element is refused for its stamp, and with which fault. -/
structure IsRefused (e : Element) (f : Fault) : Prop extends e.ComesToStamp where
  stamp : ∃ v, e.raw.member "timestamp" = .ok v ∧ Timestamp.IsRefused v f

variable {e : Element} {f : Fault}

theorem IsRefused.find_eq (h : e.IsRefused f) : e.find.1 = .error f := by
  obtain ⟨contact, hcontact, name, hname⟩ := h.contact
  obtain ⟨number, hnumber⟩ := h.number
  obtain ⟨said, htext⟩ := h.text
  obtain ⟨v, hv, hrefused⟩ := h.stamp
  have hformat := Timestamp.format_eq_error_iff.2 hrefused
  have hhas := h.sender
  rw [hasSender] at hhas
  rw [find, findMessage]
  cases hsender : e.raw.member "from" with
  | error g => rw [hsender] at hhas; cases hhas
  | ok sender =>
    rw [hsender] at hhas
    have hempty : ¬ sender.isEmpty := by simpa using hhas
    simp only [findIn, if_neg hempty, hcontact, hnumber, htext, read_eq, hname, hv, hformat, bind,
      Except.bind, pure, Except.pure, Except.map]

theorem find_unstamped (h : ∀ f, ¬ e.IsRefused f) : e.unstamped.find = e.find.unstamped := by
  have hraw : e.unstamped.raw = unstampedMessage e.raw := rfl
  rw [find, find, findMessage, findMessage, hraw, member_unstampedMessage (by decide),
    content_unstampedMessage, unstamped_findIn]
  refine findIn_congr fun sender hsender => ?_
  split
  · rw [member_unstampedMessage (by decide), unstamped_findIn]
    rfl
  · rename_i hempty
    have hhas : e.hasSender := by rw [hasSender, hsender]; simpa using hempty
    rw [unstamped_findIn]
    refine findIn_congr ?_
    rintro ⟨contact, number⟩ hbeside
    rw [unstamped_findIn]
    refine findIn_congr ?_
    rintro ⟨text, log⟩ htext
    obtain ⟨_, hcontact, hrest⟩ := ok_of_bind hbeside
    obtain ⟨_, hnumber, hpair⟩ := ok_of_bind hrest
    cases hpair
    have hread : read (unstampedMessage e.raw) sender (contact.getD (.obj [])) number text =
        Message.unstamped <$> read e.raw sender (contact.getD (.obj [])) number text := by
      refine read_unstampedMessage (fun name stamp f hname hstamp hrefused => h f ?_) ..
      exact { sender := hhas, contact := ⟨contact, hcontact, name, hname⟩
              number := ⟨number, hnumber⟩, text := ⟨(text, log), htext⟩
              stamp := ⟨stamp, hstamp, hrefused⟩ }
    dsimp only
    rw [hread]
    cases read e.raw sender (contact.getD (.obj [])) number text <;> rfl

theorem failsByShape_find_unstamped (e : Element) : FailsByShape e.unstamped.find.1 := by
  refine failsOnly_findMessage (fun f hf => hf) (fun stamp hstamp => ?_) _ _
  have hnone : stamp = .null := by
    have hraw : (unstampedMessage e.raw).member "timestamp" = .ok stamp := hstamp
    cases hobj : e.raw with
    | obj fields =>
      rw [hobj, member_timestamp_unstampedMessage] at hraw
      exact (Except.ok.inj hraw).symm
    | _ => rw [hobj] at hraw; cases hraw
  rw [hnone]
  exact .ok none

end Element

/-! ### Batches without stamps -/

/-- That a search stops at a stamp, with the fault that it is refused for. -/
def RefusedIn (xs : List (Except Fault Element)) (f : Fault) : Prop :=
  ∃ before e after, xs = before ++ .ok e :: after ∧ (∀ x ∈ before, ∃ ms, (look x).1 = .ok ms) ∧
    e.IsRefused f

theorem RefusedIn.cons {x : Except Fault Element} {xs : List (Except Fault Element)} {f : Fault}
    {ms : List Message} (hx : (look x).1 = .ok ms) (h : RefusedIn xs f) : RefusedIn (x :: xs) f := by
  obtain ⟨before, e, after, rfl, hbefore, he⟩ := h
  refine ⟨x :: before, e, after, rfl, fun y hy => ?_, he⟩
  rcases List.mem_cons.1 hy with rfl | hy
  · exact ⟨ms, hx⟩
  · exact hbefore y hy

theorem findEach_unstamped {xs : List (Except Fault Element)} (h : ∀ f, ¬ RefusedIn xs f) :
    findEach look (xs.map (Element.unstamped <$> ·)) = (findEach look xs).unstamped := by
  induction xs with
  | nil => rfl
  | cons x xs ih =>
    have hlook : look (Element.unstamped <$> x) = (look x).unstamped := by
      cases x with
      | error g => rfl
      | ok e => exact e.find_unstamped fun f hf => h f ⟨[], e, xs, rfl, nofun, hf⟩
    rw [List.map_cons, findEach, findEach, hlook]
    cases hx : look x with
    | mk r log =>
      cases r with
      | error g => rfl
      | ok ms =>
        -- The search goes on, so what is refused further on is refused here.
        rw [ih fun f hf => h f (hf.cons (by rw [hx]))]
        obtain ⟨- | ns, more⟩ := findEach look xs
        · rfl
        · simp [Found.unstamped, Except.map]

/-- That a batch of the provider is refused for a stamp, and with which fault. -/
structure IsRefused (batch : Json) (f : Fault) : Prop where
  ofProvider : isOfProvider batch
  refused : RefusedIn (course batch) f

theorem extract_of_refusedIn {batch : Json} {f : Fault} (h : RefusedIn (course batch) f) :
    (extract batch).1 = .error f := by
  obtain ⟨before, e, after, hcourse, hbefore, he⟩ := h
  rw [extract_eq_course, hcourse]
  exact findEach_of_error hbefore he.find_eq

theorem extract_unstamped {batch : Json} (h : ∀ f, ¬ RefusedIn (course batch) f) :
    extract (unstamped batch) = (extract batch).unstamped := by
  rw [extract_eq_course, extract_eq_course, course_unstamped, findEach_unstamped h]

theorem failsByShape_extract_unstamped (batch : Json) : FailsByShape (extract (unstamped batch)).1 := by
  rw [extract_eq_course, course_unstamped, findEach_map]
  refine failsOnly_findEach fun x hx => ?_
  cases x with
  | error g => exact .error ((failsByShape_of_mem_course hx).fault rfl)
  | ok e => exact e.failsByShape_find_unstamped

/-! ### What comes of a batch -/

section

variable {σ : Type} (a : Archive σ) (now : String) (bot : Option String) (s : σ)

/-- What comes of a batch: the answer, what the bot is called with, and what has been kept. -/
def outcome (batch : Json) : Except Fault (Receipt × List (String × String × String)) × σ :=
  let (result, _, kept) := receive a now bot s batch
  (result.map fun (receipt, ms) => (receipt, ms.map Message.call), kept)

theorem keepAll_unstamped (ms : List Message) :
    keepAll a now bot s (ms.map Message.unstamped) = keepAll a now bot s ms := by
  induction ms generalizing s with
  | nil => rfl
  | cons m ms ih =>
    simp only [List.map_cons, keepAll, ih]
    rfl

theorem calls_unstamped (ms : List Message) :
    ((ms.map Message.unstamped).filter (isForBot bot)).map Message.call =
      (ms.filter (isForBot bot)).map Message.call := by
  rw [List.filter_map, List.map_map]
  rfl

variable {a now bot s} {batch : Json} {f : Fault}

theorem outcome_of_isRefused (h : IsRefused batch f) : outcome a now bot s batch = (.error f, s) := by
  have hof := h.ofProvider
  rw [isOfProvider] at hof
  have hfound := extract_of_refusedIn h.refused
  rw [outcome, receive]
  cases hmember : batch.member "object" with
  | error g => rw [hmember] at hof; cases hof
  | ok object =>
    rw [hmember] at hof
    have hkind : (object.text? == some "whatsapp_business_account") = true := hof
    generalize extract batch = found at hfound
    obtain ⟨r, log⟩ := found
    cases hfound
    simp only [hkind, if_true]
    rfl

theorem outcome_unstamped (h : ∀ f, ¬ IsRefused batch f) :
    outcome a now bot s (unstamped batch) = outcome a now bot s batch := by
  rw [outcome, outcome, receive, receive, member_object_unstamped]
  cases hmember : batch.member "object" with
  | error g => rfl
  | ok object =>
    dsimp only
    split
    · rename_i hkind
      have hof : isOfProvider batch := by rw [isOfProvider, hmember]; exact hkind
      rw [extract_unstamped fun f hf => h f ⟨hof, hf⟩]
      obtain ⟨- | - | ⟨m, ms⟩, log⟩ := extract batch
      · rfl
      · rfl
      · have hkept := keepAll_unstamped a now bot s (m :: ms)
        have hcalls := calls_unstamped bot (m :: ms)
        rw [List.map_cons] at hkept hcalls
        simp only [Found.unstamped, Except.map, List.map_cons, hkept, hcalls, List.length_cons,
          List.length_map]
    · rfl

/-- A batch is refused with the faults that are no matter of shape. -/
theorem isRefused_iff : IsRefused batch f ↔ (outcome a now bot s batch).1 = .error f ∧ ¬ f.isOfShape := by
  constructor
  · intro h
    obtain ⟨before, e, after, -, -, he⟩ := h.refused
    obtain ⟨v, -, hv⟩ := he.stamp
    exact ⟨by rw [outcome_of_isRefused h], hv.not_isOfShape⟩
  · rintro ⟨herror, hshape⟩
    by_cases h : ∃ g, IsRefused batch g
    · obtain ⟨g, hg⟩ := h
      rw [outcome_of_isRefused hg] at herror
      cases herror
      exact hg
    · -- What is not refused comes to what it comes to without stamps, and that fails for a shape only.
      rw [← outcome_unstamped (not_exists.1 h)] at herror
      have houtcome : FailsByShape (outcome a now bot s (unstamped batch)).1 :=
        (failsOnly_receive (fun f hf => hf) (failsByShape_extract_unstamped batch)).map _
      exact absurd (houtcome.fault herror) hshape

end

/-- Two batches that differ in the stamps of their messages only come to the same exactly if they are
refused alike. A batch that is refused fails for its stamp, and nothing of it is kept or handed on. -/
theorem stamps_do_not_count_iff {σ : Type} (a : Archive σ) (now : String) (bot : Option String) (s : σ)
    {batch batch' : Json} (h : unstamped batch = unstamped batch') :
    (outcome a now bot s batch = outcome a now bot s batch' ↔
      ∀ f, IsRefused batch f ↔ IsRefused batch' f) ∧
    ∀ f, IsRefused batch f → outcome a now bot s batch = (.error f, s) := by
  refine ⟨⟨fun heq f => ?_, fun hiff => ?_⟩, fun f hf => outcome_of_isRefused hf⟩
  · rw [isRefused_iff (a := a) (s := s), heq, ← isRefused_iff]
  · by_cases hrefused : ∃ f, IsRefused batch f
    · obtain ⟨f, hf⟩ := hrefused
      rw [outcome_of_isRefused hf, outcome_of_isRefused ((hiff f).1 hf)]
    · have hfree := not_exists.1 hrefused
      have hfree' : ∀ f, ¬ IsRefused batch' f := fun f hf => hfree f ((hiff f).2 hf)
      rw [← outcome_unstamped hfree, h, outcome_unstamped hfree']

/-- Two batches with one message each that differ in its stamp: the one is taken, the other, with a
stamp three thousand billion years ahead, is lost. -/
theorem stamp_loses_message :
    let contact : Json := .obj [("profile", .obj [("name", .str "Sara")])]
    let message (stamp : Json) : Json := .obj [("from", .str "7"), ("id", .str "m1"),
      ("timestamp", stamp), ("type", .str "text"), ("text", .obj [("body", .str "hello")])]
    let change (stamp : Json) : Json := .obj [("field", .str "messages"), ("value", .obj [
      ("metadata", .obj [("phone_number_id", .str "1")]), ("contacts", .arr [contact]),
      ("messages", .arr [message stamp])])]
    let batch (stamp : Json) : Json := .obj [("object", .str "whatsapp_business_account"),
      ("entry", .arr [.obj [("changes", .arr [change stamp])]])]
    let usual := batch (.str "1700000000")
    let late := batch (.int 100000000000000000000)
    unstamped usual = unstamped late ∧
      (outcome Store.archive "noon" none {} usual).1 =
        .ok (⟨"success", "Message processed", 1⟩, [("7", "hello", "Sara")]) ∧
      outcome Store.archive "noon" none {} late = (.error .timeOverflow, {}) ∧
      outcome Store.archive "noon" none {} usual ≠ outcome Store.archive "noon" none {} late := by
  intro contact message change batch usual late
  have hsame : unstamped usual = unstamped late := rfl
  have husual : (outcome Store.archive "noon" none {} usual).1 =
      .ok (⟨"success", "Message processed", 1⟩, [("7", "hello", "Sara")]) := rfl
  let element : Element := { raw := message (.int 100000000000000000000), position := 0
                             contacts := .arr [contact]
                             metadata := .obj [("phone_number_id", .str "1")] }
  have helement : element.IsRefused .timeOverflow :=
    { sender := rfl
      contact := ⟨contact, rfl, _, rfl⟩
      number := ⟨_, rfl⟩
      text := ⟨_, rfl⟩
      stamp := ⟨_, rfl, .overflow rfl (by decide)⟩ }
  have hlate : IsRefused late .timeOverflow := ⟨rfl, [], element, [], rfl, nofun, helement⟩
  obtain ⟨hiff, hgone⟩ := stamps_do_not_count_iff Store.archive "noon" none {} hsame
  refine ⟨hsame, husual, outcome_of_isRefused hlate, fun heq => ?_⟩
  rw [hgone .timeOverflow ((hiff.1 heq .timeOverflow).2 hlate)] at husual
  cases husual

end Inbox

end ChatFlow
