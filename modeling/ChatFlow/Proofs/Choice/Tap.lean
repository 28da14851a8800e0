import ChatFlow.Inbox

/-!
# Taps on their way to the bot

A customer taps a button or a row, and the provider reports the title of it. `Tap.batch` is such a
report, whoever tapped and whenever; `Tap.exists_extract` says that exactly one message is found in
it, and that its text is the title.
-/

namespace ChatFlow

/-- A tap as the provider reports it, but for the title: on a button or a row with an id, by a customer
with a number and a name, at a time, and to a number of the bot. -/
structure Tap where
  onButton : Bool
  choiceId : String
  sender : String
  name : String
  messageId : String
  stamp : String
  botNumber : String
  /-- Nobody has an empty number. -/
  sender_ne : sender ≠ ""
  /-- The time is one that calendars know. -/
  readable : ∃ time, Timestamp.format (.str stamp) = .ok time

namespace Tap

variable (p : Tap) {title : String}

def form : String := if p.onButton then "button_reply" else "list_reply"

/-- What a tap says: the form of the choice, and the choice under the name of that form. -/
def interactive (title : String) : Json := .obj [
  ("type", .str p.form),
  (p.form, .obj [("id", .str p.choiceId), ("title", .str title)])]

def message (title : String) : Json := .obj [
  ("from", .str p.sender), ("id", .str p.messageId), ("timestamp", .str p.stamp),
  ("type", .str "interactive"), ("interactive", p.interactive title)]

def contact : Json := .obj [
  ("profile", .obj [("name", .str p.name)]), ("wa_id", .str p.sender)]

def metadata : Json := .obj [("phone_number_id", .str p.botNumber)]

def change (title : String) : Json := .obj [
  ("field", .str "messages"),
  ("value", .obj [("messaging_product", .str "whatsapp"), ("metadata", p.metadata),
    ("contacts", .arr [p.contact]), ("messages", .arr [p.message title])])]

/-- The report of a tap. -/
def batch (title : String) : Json := .obj [
  ("object", .str "whatsapp_business_account"),
  ("entry", .arr [.obj [("id", .str p.botNumber), ("changes", .arr [p.change title])]])]

/-! ### Reading a tap -/

theorem choice_interactive (h : title ≠ "") :
    Inbox.choice (p.interactive title) = .ok (.str title, []) := by
  have hempty : (Json.str title).isEmpty = false := by simpa [Json.isEmpty] using h
  cases hb : p.onButton with
  | true =>
    have hbutton : (p.interactive title).memberObject "button_reply" =
        .ok (.obj [("id", .str p.choiceId), ("title", .str title)]) := by
      rw [interactive, form, hb]; rfl
    rw [Inbox.choice, hbutton]
    change (if !(Json.str title).isEmpty then _ else _) = _
    rw [hempty]; rfl
  | false =>
    have hbutton : (p.interactive title).memberObject "button_reply" = .ok (.obj []) := by
      rw [interactive, form, hb]; rfl
    have hrow : (p.interactive title).memberObject "list_reply" =
        .ok (.obj [("id", .str p.choiceId), ("title", .str title)]) := by
      rw [interactive, form, hb]; rfl
    rw [Inbox.choice, hbutton, hrow]
    change (if !(Json.str title).isEmpty then _ else _) = _
    rw [hempty]; rfl

theorem content_message (h : title ≠ "") :
    Inbox.content (p.message title) = .ok (.str title, []) :=
  p.choice_interactive h

theorem exists_read (title : String) : ∃ m,
    Inbox.read (p.message title) (.str p.sender) p.contact (.str p.botNumber) (.str title) = .ok m ∧
      m.conversation = p.sender ∧ m.text = title := by
  obtain ⟨time, htime⟩ := p.readable
  obtain ⟨shown, hshown⟩ : ∃ shown, (Json.str p.name).ifEmpty (.str "Unknown") = .str shown := by
    unfold Json.ifEmpty
    split
    · exact ⟨_, rfl⟩
    · exact ⟨_, rfl⟩
  have hprofile : p.contact.memberObject "profile" = .ok (.obj [("name", .str p.name)]) := rfl
  have hname : (Json.obj [("name", .str p.name)]).member "name" = .ok (.str p.name) := rfl
  have hstamp : (p.message title).member "timestamp" = .ok (.str p.stamp) := rfl
  have hid : (p.message title).member "id" = .ok (.str p.messageId) := rfl
  have htype : (p.message title).member "type" (.str "unknown") = .ok (.str "interactive") := rfl
  simp only [Inbox.read, hprofile, hname, hstamp, hid, htype, htime, hshown, bind, Except.bind]
  exact ⟨⟨some p.messageId, p.sender, title, shown, "interactive", some p.botNumber, time, .null,
    .null, .null⟩, rfl, rfl, rfl⟩

/-- One message is found in the report of a tap: it comes from the customer, and its text is the
title. -/
theorem exists_extract (h : title ≠ "") : ∃ m, Inbox.extract (p.batch title) = (.ok [m], []) ∧
    m.conversation = p.sender ∧ m.text = title := by
  obtain ⟨m, hread, hm⟩ := p.exists_read title
  refine ⟨m, ?_, hm⟩
  have hsender : (Json.str p.sender).isEmpty = false := by simpa [Json.isEmpty] using p.sender_ne
  have hfound : Inbox.findMessage (.arr [p.contact]) p.metadata (p.message title, 0) =
      (.ok [m], []) := by
    have hstart : Inbox.findMessage (.arr [p.contact]) p.metadata (p.message title, 0) =
        if (Json.str p.sender).isEmpty then _ else
          Inbox.findIn (Inbox.content (p.message title)) fun said =>
            ((Inbox.read (p.message title) (.str p.sender) p.contact (.str p.botNumber) said.1).map
              ([·]), said.2) := rfl
    rw [hstart, hsender, p.content_message h]
    change (Except.map _ _, _) = _
    rw [hread]
    rfl
  -- The report, its entry and its change hold nothing but the one message.
  have hchange : Inbox.findChange (p.change title) = (.ok [m], []) := by
    have : Inbox.findChange (p.change title) =
      Inbox.findEach (Inbox.findMessage (.arr [p.contact]) p.metadata) [(p.message title, 0)] := rfl
    rw [this, Inbox.findEach_singleton, hfound]
  have hentry : Inbox.findEach Inbox.findChange [p.change title] = (.ok [m], []) := by
    rw [Inbox.findEach_singleton, hchange]
  have hbatch : Inbox.extract (p.batch title) = Inbox.findEach (fun entry : Json =>
      Inbox.findIn (entry.memberEach "changes") <| Inbox.findEach Inbox.findChange)
        [.obj [("id", .str p.botNumber), ("changes", .arr [p.change title])]] := rfl
  rw [hbatch, Inbox.findEach_singleton]
  exact hentry

end Tap

end ChatFlow
