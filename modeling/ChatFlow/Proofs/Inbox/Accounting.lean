import ChatFlow.Proofs.Inbox.Elements

/-!
# Accounting for the messages of a batch

Where a batch can be read, every element with a sender becomes one message that says what the element
says (`reports_of_extract`), and every message is kept once, or at least tried to be. `Archive.traced`
writes down each try, and `keepAll_traced` says which there are: what an archive answers changes
neither them nor what goes to the bot.
-/

namespace ChatFlow

namespace Inbox

/-! ### Messages and their elements -/

/-- Whether an element says whom it comes from. -/
def Element.hasSender (e : Element) : Bool :=
  match e.raw.member "from" with
  | .ok sender => !sender.isEmpty
  | .error _ => false

/-- The name that a contact goes by. -/
def shownName (contact : Json) : Except Fault Json := do
  return (← (← contact.memberObject "profile").member "name").ifEmpty (.str "Unknown")

/-- What a message says that was found in an element: all of it stands in the element, and in the
contact at the same position. -/
structure Reports (e : Element) (m : Message) : Prop where
  id : e.raw.member "id" = .ok (.ofText? m.id)
  sender : e.raw.member "from" = .ok (.str m.conversation)
  text : ∃ log, content e.raw = .ok (.str m.text, log)
  contact : ∃ contact, (e.contacts.ifEmpty (.arr [])).itemAt? e.position = .ok contact ∧
    shownName (contact.getD (.obj [])) = .ok (.str m.displayName)
  type : e.raw.member "type" (.str "unknown") = .ok (.str m.type)
  number : (e.metadata.ifEmpty (.obj [])).member "phone_number_id" = .ok (.ofText? m.phoneNumberId)
  timestamp : ∃ stamp, e.raw.member "timestamp" = .ok stamp ∧
    Timestamp.format stamp = .ok m.timestamp
  media : if mediaTypes.contains m.type then ∃ media, e.raw.memberObject m.type = .ok media ∧
      media.member "id" = .ok m.mediaId ∧ media.member "mime_type" = .ok m.mimeType ∧
      media.member "filename" = .ok m.fileName
    else m.mediaId = .null ∧ m.mimeType = .null ∧ m.fileName = .null

variable {m : Message}

theorem eq_of_check {id conversation text name type number : Json} {stamp : Option String}
    (h : check id conversation text name type number stamp = .ok m) :
    m = { id := m.id, conversation := m.conversation, text := m.text, displayName := m.displayName,
          type := m.type, phoneNumberId := m.phoneNumberId, timestamp := stamp } ∧
      id = .ofText? m.id ∧ conversation = .str m.conversation ∧ text = .str m.text ∧
      name = .str m.displayName ∧ type = .str m.type ∧ number = .ofText? m.phoneNumberId := by
  obtain ⟨g₅, number', h₅, hnumber, rfl⟩ := Schema.Checked.ok_of_seq h
  obtain ⟨g₄, type', h₄, htype, rfl⟩ := Schema.Checked.ok_of_seq h₅
  obtain ⟨g₃, name', h₃, hname, rfl⟩ := Schema.Checked.ok_of_seq h₄
  obtain ⟨g₂, text', h₂, htext, rfl⟩ := Schema.Checked.ok_of_seq h₃
  obtain ⟨g₁, conversation', h₁, hconversation, rfl⟩ := Schema.Checked.ok_of_seq h₂
  obtain ⟨id', hid, rfl⟩ := Schema.Checked.ok_of_map h₁
  exact ⟨rfl, Schema.eq_ofText?_of_nullable (Schema.Checked.ok_of_under hid),
    Schema.eq_str_of_string (Schema.Checked.ok_of_under hconversation),
    Schema.eq_str_of_string (Schema.Checked.ok_of_under htext),
    Schema.eq_str_of_string (Schema.Checked.ok_of_under hname),
    Schema.eq_str_of_string (Schema.Checked.ok_of_under htype),
    Schema.eq_ofText?_of_nullable (Schema.Checked.ok_of_under hnumber)⟩

theorem reports_of_read {e : Element} {sender number text : Json} {contact : Option Json}
    {log : List Log.Entry} (hsender : e.raw.member "from" = .ok sender)
    (hcontact : (e.contacts.ifEmpty (.arr [])).itemAt? e.position = .ok contact)
    (hnumber : (e.metadata.ifEmpty (.obj [])).member "phone_number_id" = .ok number)
    (htext : content e.raw = .ok (text, log))
    (h : read e.raw sender (contact.getD (.obj [])) number text = .ok m) : Reports e m := by
  obtain ⟨profile, hprofile, h₁⟩ := ok_of_bind h
  obtain ⟨name, hname, h₂⟩ := ok_of_bind h₁
  obtain ⟨stamp, hstamp, h₃⟩ := ok_of_bind h₂
  obtain ⟨time, htime, h₄⟩ := ok_of_bind h₃
  obtain ⟨id, hid, h₅⟩ := ok_of_bind h₄
  obtain ⟨type, htype, h₆⟩ := ok_of_bind h₅
  have hshown : shownName (contact.getD (.obj [])) = .ok (name.ifEmpty (.str "Unknown")) := by
    rw [shownName, hprofile]
    show (profile.member "name" >>= _) = _
    rw [hname]
    rfl
  cases hcheck : check id sender text (name.ifEmpty (.str "Unknown")) type number time with
  | bad i is => rw [hcheck] at h₆; cases h₆
  | ok m₀ =>
    rw [hcheck] at h₆
    obtain ⟨heq, hid', hsender', htext', hshown', htype', hnumber'⟩ := eq_of_check hcheck
    rw [hid'] at hid
    rw [hsender'] at hsender
    rw [htext'] at htext
    rw [hshown'] at hshown
    rw [htype'] at htype
    rw [hnumber'] at hnumber
    have htime' : Timestamp.format stamp = .ok m₀.timestamp := by rw [heq]; exact htime
    have h : withMedia m₀ e.raw = .ok m := h₆
    unfold withMedia at h
    split at h <;> rename_i hmedia
    · obtain ⟨media, hraw, hm₁⟩ := ok_of_bind h
      obtain ⟨mediaId, hmediaId, hm₂⟩ := ok_of_bind hm₁
      obtain ⟨mimeType, hmimeType, hm₃⟩ := ok_of_bind hm₂
      obtain ⟨fileName, hfileName, hm₄⟩ := ok_of_bind hm₃
      cases hm₄
      refine ⟨hid, hsender, ⟨log, htext⟩, ⟨contact, hcontact, hshown⟩, htype, hnumber,
        ⟨stamp, hstamp, htime'⟩, ?_⟩
      rw [if_pos hmedia]
      exact ⟨media, hraw, hmediaId, hmimeType, hfileName⟩
    · cases h
      refine ⟨hid, hsender, ⟨log, htext⟩, ⟨contact, hcontact, hshown⟩, htype, hnumber,
        ⟨stamp, hstamp, htime'⟩, ?_⟩
      rw [if_neg hmedia, heq]
      exact ⟨rfl, rfl, rfl⟩

/-- An element holds one message if it has a sender, and none if it has none. -/
theorem reports_of_find {e : Element} {ms : List Message} {log : List Log.Entry}
    (h : e.find = (.ok ms, log)) :
    if e.hasSender then ∃ m, ms = [m] ∧ Reports e m else ms = [] := by
  obtain ⟨sender, hsender, hfound⟩ := findIn_ok h
  have hhas : e.hasSender = !sender.isEmpty := by rw [Element.hasSender, hsender]
  split at hfound <;> rename_i hempty
  · obtain ⟨id, -, hskipped⟩ := findIn_ok hfound
    cases hskipped
    simp [hhas, hempty]
  · obtain ⟨⟨contact, number⟩, hbeside, hsaid⟩ := findIn_ok hfound
    obtain ⟨⟨text, said⟩, htext, hread⟩ := findIn_ok hsaid
    obtain ⟨_, hcontact, hrest⟩ := ok_of_bind hbeside
    obtain ⟨_, hnumber, hpair⟩ := ok_of_bind hrest
    cases hpair
    rw [if_pos (by simp [hhas, hempty])]
    dsimp only at hread
    cases hm : read e.raw sender (contact.getD (.obj [])) number text with
    | error f => rw [hm] at hread; cases hread
    | ok m =>
      rw [hm] at hread
      cases hread
      exact ⟨m, rfl, reports_of_read hsender hcontact hnumber htext hm⟩

theorem reports_of_findEach {es : List Element} {ms : List Message} {log : List Log.Entry}
    (h : findEach Element.find es = (.ok ms, log)) :
    List.Forall₂ Reports (es.filter Element.hasSender) ms := by
  induction es generalizing ms log with
  | nil => cases h; exact .nil
  | cons e es ih =>
    obtain ⟨ns, first, rest, more, he, hes, rfl, -⟩ := findEach_cons_ok h
    have hfound := reports_of_find he
    split at hfound <;> rename_i hsender
    · obtain ⟨m, rfl, hm⟩ := hfound
      rw [List.filter_cons_of_pos hsender]
      exact .cons hm (ih hes)
    · subst hfound
      rw [List.filter_cons_of_neg hsender]
      exact ih hes

/-- The messages of a batch report its elements that have a sender, one each and in their order. -/
theorem reports_of_extract {batch : Json} {ms : List Message} {log : List Log.Entry}
    (h : extract batch = (.ok ms, log)) :
    ∃ es, elements? batch = some es ∧ List.Forall₂ Reports (es.filter Element.hasSender) ms := by
  obtain ⟨es, hes⟩ := exists_elements? h
  exact ⟨es, hes, reports_of_findEach (extract_of_elements? hes ▸ h)⟩

end Inbox

/-! ### What is kept -/

/-- What an archive is asked to keep. -/
structure Attempt where
  time : String
  conversation : String
  record : Record
  customerName : Option String

variable {σ : Type}

/-- An archive that also writes down what it is asked to keep, whether it does so or not. -/
def Archive.traced (a : Archive σ) : Archive (σ × List Attempt) where
  append s time conversation record customerName :=
    let (result, log, kept) := a.append s.1 time conversation record customerName
    (result, log, kept, s.2 ++ [⟨time, conversation, record, customerName⟩])
  conversations s := a.conversations s.1
  messages s conversation :=
    let (records, kept) := a.messages s.1 conversation
    (records, kept, s.2)

namespace Inbox

/-- The attempt to keep a message. -/
def attempt (now : String) (m : Message) : Attempt :=
  ⟨now, m.conversation, record m, some m.displayName⟩

theorem isForBot_iff {bot : Option String} {m : Message} :
    isForBot bot m ↔ bot = none ∨ bot = some "" ∨ m.phoneNumberId = bot := by
  cases bot with
  | none => simp [isForBot]
  | some number =>
    by_cases h : number = ""
    · subst h
      exact ⟨fun _ => Or.inr (Or.inl rfl), fun _ => rfl⟩
    · have hfilter : (some number).filter (! ·.isEmpty) = some number := by
        rw [Option.filter_some, if_pos (by simpa [String.isEmpty_iff] using h)]
      simp [isForBot, hfilter, h]

variable (a : Archive σ) (now : String) (bot : Option String)

theorem keep_traced (s : σ) (tries : List Attempt) (m : Message) :
    keep a.traced now (s, tries) m =
      ((keep a now s m).1, (keep a now s m).2, tries ++ [attempt now m]) := by
  have htraced : a.traced.append (s, tries) now m.conversation (record m) (some m.displayName) =
      ((a.append s now m.conversation (record m) (some m.displayName)).1,
        (a.append s now m.conversation (record m) (some m.displayName)).2.1,
        (a.append s now m.conversation (record m) (some m.displayName)).2.2,
        tries ++ [attempt now m]) := rfl
  rw [keep, keep, htraced]
  rcases a.append s now m.conversation (record m) (some m.displayName) with ⟨f | _, log, s'⟩ <;> rfl

theorem keepAll_traced (s : σ) (tries : List Attempt) (ms : List Message) :
    keepAll a.traced now bot (s, tries) ms =
      ((keepAll a now bot s ms).1, (keepAll a now bot s ms).2, tries ++ ms.map (attempt now)) := by
  induction ms generalizing s tries with
  | nil => simp [keepAll]
  | cons m ms ih =>
    simp only [keepAll, keep_traced, ih]
    simp

/-- A batch that can be read is answered with the number of its messages. Each of them is tried to be
kept once, whatever becomes of the others, and those for the bot are handed on. -/
theorem receive_of_extract {batch : Json} {ms : List Message} {log : List Log.Entry}
    (hobject : batch.member "object" = .ok (.str "whatsapp_business_account"))
    (hx : extract batch = (.ok ms, log)) (s : σ) :
    ∃ message entries kept,
      receive a now bot s batch =
        (.ok (⟨"success", message, ms.length⟩, ms.filter (isForBot bot)), entries, kept) ∧
      receive a.traced now bot (s, []) batch =
        (.ok (⟨"success", message, ms.length⟩, ms.filter (isForBot bot)), entries, kept,
          ms.map (attempt now)) := by
  have hkind : ((Json.str "whatsapp_business_account").text? ==
      some "whatsapp_business_account") = true := by decide
  simp only [receive, hobject, hkind, if_true, hx]
  cases ms with
  | nil => exact ⟨_, _, _, rfl, rfl⟩
  | cons m ms =>
    simp only [keepAll_traced, List.nil_append]
    exact ⟨_, _, _, rfl, rfl⟩

end Inbox

end ChatFlow
