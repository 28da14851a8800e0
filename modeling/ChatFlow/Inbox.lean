import ChatFlow.Archive
import ChatFlow.Json.Access
import ChatFlow.Json.Writer
import ChatFlow.Schema.Record
import ChatFlow.Timestamp

/-!
# Messages that come in

The provider reports messages in batches. `Inbox.extract` finds the messages of a batch, whatever
their kind, and says what text the bot sees for each; `Inbox.receive` keeps them all and selects
those that are meant for the bot.
-/

namespace ChatFlow

structure Message where
  id : Option String
  conversation : String
  text : String
  displayName : String
  type : String
  phoneNumberId : Option String
  timestamp : Option String
  mediaId : Json := .null
  mimeType : Json := .null
  fileName : Json := .null

namespace Inbox

def note (level : Log.Level) (message : String) : Log.Entry := .plain .inbox level message

/-! ### What the bot sees -/

def choice (interactive : Json) : Except Fault (Json × List Log.Entry) := do
  let button ← (← interactive.memberObject "button_reply").member "title"
  if !button.isEmpty then return (button, [])
  let row ← (← interactive.memberObject "list_reply").member "title"
  if !row.isEmpty then return (row, [])
  return (.str "[Interactive Response]",
    [note .warning ("Unknown interactive format: " ++ interactive.display)])

/-- The text of a message: what the customer wrote or chose, or words for what cannot be shown. -/
def content (message : Json) : Except Fault (Json × List Log.Entry) := do
  let type ← message.member "type"
  let body ← match type with
    | .str t => message.memberObject t
    | .arr _ => .error .wrongKind
    | .obj _ => .error .wrongKind
    | _ => .ok (.obj [])
  let silent (v : Json) : Json × List Log.Entry := (v, [])
  match type.text? with
  | some "text" => return silent (← body.member "body" (.str ""))
  | some "image" => return silent (← body.member "caption" (.str ""))
  | some "video" => return silent (← body.member "caption" (.str ""))
  | some "audio" => return silent (.str "")
  | some "document" => return silent ((← body.member "filename").ifEmpty (.str "file"))
  | some "location" =>
    let latitude ← body.member "latitude"
    let longitude ← body.member "longitude"
    return silent (.str ("[Location: " ++ latitude.words ++ ", " ++ longitude.words ++ "]"))
  | some "sticker" => return silent (.str "[Sticker]")
  | some "button" => return silent ((← body.member "text").ifEmpty (.str "[Button Response]"))
  | some "interactive" => choice body
  | _ => return silent (.str ("[Unsupported message type: " ++ type.words ++ "]"))

/-! ### Reading a batch -/

open Schema in
/-- Put a message together; all fields but the stamp have to be texts. -/
def check (id conversation text displayName type phoneNumberId : Json)
    (timestamp : Option String) : Checked Message :=
  let field {α : Type} (name : String) (d : Decoder α) (v : Json) : Checked α :=
    (d v).under (.field name)
  (fun id conversation text displayName type phoneNumberId =>
      { id, conversation, text, displayName, type, phoneNumberId, timestamp })
    <$> field "message_id" (nullable string) id
    <*> field "conversation_id" string conversation
    <*> field "text" string text
    <*> field "display_name" string displayName
    <*> field "message_type" string type
    <*> field "phone_number_id" (nullable string) phoneNumberId

def mediaTypes : List String := ["image", "video", "audio", "document", "sticker"]

def withMedia (m : Message) (raw : Json) : Except Fault Message := do
  if mediaTypes.contains m.type then
    let media ← raw.memberObject m.type
    return { m with
      mediaId := ← media.member "id"
      mimeType := ← media.member "mime_type"
      fileName := ← media.member "filename" }
  else return m

/-- Read one message, given its text, the contact that belongs to it and the number it was sent
to. -/
def read (raw sender contact phoneNumberId text : Json) : Except Fault Message := do
  let profile ← contact.memberObject "profile"
  let displayName := (← profile.member "name").ifEmpty (.str "Unknown")
  let timestamp ← Timestamp.format (← raw.member "timestamp")
  match check (← raw.member "id") sender text displayName
      (← raw.member "type" (.str "unknown")) phoneNumberId timestamp with
  | .ok m => withMedia m raw
  | .bad i is => .error (.invalid (i :: is))

/-- What has been found in a batch so far; log entries are kept even if reading fails. -/
abbrev Found := Except Fault (List Message) × List Log.Entry

/-- Find messages in each of some values, up to the first failure. -/
def findEach {α : Type} (f : α → Found) : List α → Found
  | [] => (.ok [], [])
  | a :: as => match f a with
    | (.error e, log) => (.error e, log)
    | (.ok ms, log) => match findEach f as with
      | (.error e, more) => (.error e, log ++ more)
      | (.ok ns, more) => (.ok (ms ++ ns), log ++ more)

def findIn {α : Type} (r : Except Fault α) (f : α → Found) : Found :=
  match r with
  | .ok a => f a
  | .error e => (.error e, [])

theorem findEach_singleton {α : Type} (f : α → Found) (a : α) : findEach f [a] = f a := by
  rw [findEach]
  split
  · rename_i h; rw [h]
  · rename_i h; simp [findEach, h]

/-- Two lists that stand behind each other are searched as two values are. -/
theorem findEach_append {α : Type} (f : α → Found) (as bs : List α) :
    findEach f (as ++ bs) = findEach (findEach f) [as, bs] := by
  have hpair : ∀ a b, findEach (findEach f) [a, b] = match findEach f a with
      | (.error e, log) => (.error e, log)
      | (.ok ms, log) => match findEach f b with
        | (.error e, more) => (.error e, log ++ more)
        | (.ok ns, more) => (.ok (ms ++ ns), log ++ more) := by
    intro a b
    rw [findEach, findEach_singleton]
  rw [hpair]
  induction as with
  | nil =>
    simp only [List.nil_append, findEach]
    rcases findEach f bs with ⟨- | -, log⟩ <;> rfl
  | cons a as ih =>
    simp only [List.cons_append, findEach, ih]
    rcases f a with ⟨e | ms, log⟩
    · rfl
    · rcases findEach f as with ⟨e | ns, more⟩
      · rfl
      · rcases findEach f bs with ⟨- | -, last⟩ <;> simp

theorem findEach_flatten {α : Type} (f : α → Found) (lists : List (List α)) :
    findEach f lists.flatten = findEach (findEach f) lists := by
  induction lists with
  | nil => rfl
  | cons as lists ih =>
    rw [List.flatten_cons, findEach_append, findEach, findEach_singleton, ih, ← findEach]

/-- The message at a position of a report; one without a sender is left out. -/
def findMessage (contacts metadata : Json) (entry : Json × Nat) : Found :=
  findIn (entry.1.member "from") fun sender =>
    if sender.isEmpty then
      findIn (entry.1.member "id") fun id =>
        (.ok [], [note .error ("Message without sender: " ++ id.words)])
    else
      findIn (do return (← contacts.itemAt? entry.2, ← metadata.member "phone_number_id"))
        fun (contact, phoneNumberId) => findIn (content entry.1) fun (text, log) =>
          ((read entry.1 sender (contact.getD (.obj [])) phoneNumberId text).map ([·]), log)

/-- The messages of a change, if it reports messages at all. -/
def findChange (change : Json) : Found :=
  findIn (change.member "field") fun field =>
    if field.text? == some "messages" then
      findIn (do
        let value ← change.memberObject "value"
        let metadata ← value.memberObject "metadata"
        let contacts := (← value.member "contacts").ifEmpty (.arr [])
        return (metadata, contacts, ← value.memberEach "messages"))
      fun (metadata, contacts, messages) =>
        findEach (findMessage contacts metadata) messages.zipIdx
    else (.ok [], [])

def extract (batch : Json) : Found :=
  findIn (batch.memberEach "entry") <| findEach fun entry =>
    findIn (entry.memberEach "changes") <| findEach findChange

/-! ### Taking a batch -/

structure Receipt where
  status : String
  message : String
  processed : Nat := 0
  deriving DecidableEq, Repr

def Receipt.toJson (r : Receipt) : Json :=
  .obj [("status", .str r.status), ("message", .str r.message), ("processed", .int r.processed)]

def record (m : Message) : Record := [
  ("id", .ofText? m.id), ("sender", .str "customer"), ("to", .str (m.phoneNumberId.getD "")),
  ("content", .str m.text), ("type", .str m.type), ("status", .str "received"),
  ("channel", .str "whatsapp_meta"), ("customer_name", .str m.displayName)]

/-- Whether a message is for the bot: without a number of its own, it takes them all. -/
def isForBot (botNumber : Option String) (m : Message) : Bool :=
  match botNumber.filter (! ·.isEmpty) with
  | some number => m.phoneNumberId == some number
  | none => true

variable {σ : Type}

/-- Keep a message; that it could not be kept is only logged. -/
def keep (a : Archive σ) (now : String) (s : σ) (m : Message) : List Log.Entry × σ :=
  match a.append s now m.conversation (record m) (some m.displayName) with
  | (.ok (), log, s) => (log, s)
  | (.error f, log, s) =>
    (log ++ [.failure .inbox none ("Error saving message from " ++ m.conversation) f], s)

def keepAll (a : Archive σ) (now : String) (botNumber : Option String) :
    σ → List Message → List Log.Entry × σ
  | s, [] => ([], s)
  | s, m :: ms =>
    let (log, s) := keep a now s m
    let skipped := if isForBot botNumber m then [] else
      [note .debug ("Message to " ++ Text.shown m.phoneNumberId ++
        " is not for the chatbot number")]
    let (more, s) := keepAll a now botNumber s ms
    (log ++ skipped ++ more, s)

/-- Take a batch: the receipt, and the messages for the bot. -/
def receive (a : Archive σ) (now : String) (botNumber : Option String) (s : σ) (batch : Json) :
    Except Fault (Receipt × List Message) × List Log.Entry × σ :=
  match batch.member "object" with
  | .error f => (.error f, [], s)
  | .ok object =>
    if object.text? == some "whatsapp_business_account" then
      match extract batch with
      | (.error f, log) => (.error f, log, s)
      | (.ok [], log) => (.ok ({ status := "success", message := "Non-message event processed" },
          []), log, s)
      | (.ok ms, log) =>
        let (more, s) := keepAll a now botNumber s ms
        (.ok ({ status := "success", message := "Message processed", processed := ms.length },
            ms.filter (isForBot botNumber)),
          log ++ more ++ [note .info ("Processed " ++ toString ms.length ++
            " webhook message(s)")], s)
    else (.ok ({ status := "error", message := "Invalid object" }, []),
      [note .error ("Invalid object in webhook data: " ++ object.words)], s)

/-! ### Subscribing -/

structure Answer where
  status : Nat
  body : String
  deriving DecidableEq, Repr

/-- Answer the provider's question whether this is the place for its reports: the challenge is
given back to one who knows the token. -/
def verify (mode token challenge : Option String) (expected : String) :
    Answer × List Log.Entry :=
  if mode = some "subscribe" ∧ token = some expected then
    (⟨200, challenge.getD ""⟩, [note .info "Webhook verified successfully"])
  else
    (⟨403, "Invalid verification token"⟩,
      [note .error ("Webhook verification failed (mode: " ++ Text.shown mode ++ ")")])

end Inbox

end ChatFlow
