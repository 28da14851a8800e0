import ChatFlow.Proofs.Inbox.Accounting
import ChatFlow.Proofs.Store.Listing

/-!
# The names of customers

A message goes by the name in its contact, and by "Unknown" if it has none. The store keeps a name
until another comes, but to it "Unknown" is a name like any other. So a conversation goes by the name
that came with its latest message, even if that came without one (`shown_name_is_kept_iff`): a known
name is lost as soon as the customer writes without it.
-/

namespace ChatFlow

namespace Inbox

/-! ### Names in a batch -/

/-- The name that a contact gives. -/
def profileName? (contact : Json) : Option String :=
  ((contact.memberObject "profile").toOption.bind fun profile =>
    (profile.member "name").toOption.bind Json.text?).filter (! ·.isEmpty)

theorem eq_of_shownName {contact : Json} {name : String}
    (h : shownName contact = .ok (.str name)) :
    name = (profileName? contact).getD "Unknown" ∧ name.isEmpty = false := by
  obtain ⟨profile, hprofile, h⟩ := ok_of_bind h
  obtain ⟨given, hgiven, h⟩ := ok_of_bind h
  have hshown : given.ifEmpty (.str "Unknown") = .str name := Except.ok.inj h
  rw [profileName?, hprofile]
  simp only [Except.toOption, Option.bind_some, hgiven]
  cases hempty : given.isEmpty with
  | true =>
    rw [Json.ifEmpty, if_pos hempty] at hshown
    cases hshown
    cases given with
    | str s =>
      have hs : s.isEmpty = true := hempty
      simp [Json.text?, Option.filter, hs]
    | _ => exact ⟨rfl, rfl⟩
  | false =>
    rw [Json.ifEmpty, if_neg (by simp [hempty])] at hshown
    subst hshown
    have hs : name.isEmpty = false := hempty
    simp [Json.text?, Option.filter, hs]

namespace Element

variable (e : Element)

def sender? : Option String := (e.raw.member "from").toOption.bind Json.text?

/-- The name in the contact that stands where the element stands, if there is one. -/
def profileName? : Option String :=
  ((e.contacts.ifEmpty (.arr [])).itemAt? e.position).toOption.join.bind Inbox.profileName?

end Element

theorem Reports.sender_eq {e : Element} {m : Message} (h : Reports e m) :
    e.sender? = some m.conversation := by
  rw [Element.sender?, h.sender]; rfl

theorem Reports.displayName_eq {e : Element} {m : Message} (h : Reports e m) :
    m.displayName = e.profileName?.getD "Unknown" ∧ m.displayName.isEmpty = false := by
  obtain ⟨contact, hcontact, hshown⟩ := h.contact
  have hname := eq_of_shownName hshown
  rw [Element.profileName?, hcontact]
  cases contact with
  | none => exact hname
  | some c => exact hname

/-- Whether a batch says that it comes from the provider. -/
def isOfProvider (batch : Json) : Bool :=
  (batch.member "object").toOption.bind Json.text? == some "whatsapp_business_account"

/-- The messages of a batch that is accepted. -/
def accepted (batch : Json) : List Message :=
  if isOfProvider batch then (extract batch).1.toOption.getD [] else []

/-- The elements that these are found in. -/
def heard (batch : Json) : List Element :=
  if isOfProvider batch ∧ (extract batch).1.isOk then
    ((elements? batch).getD []).filter Element.hasSender else []

theorem reports_heard (batch : Json) : List.Forall₂ Reports (heard batch) (accepted batch) := by
  rw [heard, accepted]
  cases isOfProvider batch with
  | false => exact List.Forall₂.nil
  | true =>
    generalize hx : extract batch = found
    obtain ⟨r, log⟩ := found
    cases r with
    | error f => exact List.Forall₂.nil
    | ok ms =>
      obtain ⟨es, hes, hreports⟩ := reports_of_extract hx
      rw [hes]
      exact hreports

/-! ### Traffic -/

/-- What makes a store grow: batches that come in, and messages that the bot or an agent sent. -/
inductive Traffic where
  | report (now : String) (batch : Json)
  | sent (now conversation : String) (id : Json) (sender : String) (content : Json)
    (channel : String)

namespace Traffic

def take (bot : Option String) (s : Store) : Traffic → Store
  | report now batch => (receive Store.archive now bot s batch).2.2
  | sent now conversation id sender content channel =>
    (Store.archive.append s now conversation
      (outgoingRecord id sender conversation content channel) none).2.2

/-- A message that came in, on its way into the store. -/
def entry (now : String) (m : Message) : Store.Entry :=
  ⟨now, record m, some m.displayName, by simp [Assoc.keys, record]⟩

def operations : Traffic → List Store.Operation
  | report now batch => (accepted batch).map fun m => .append m.conversation (entry now m)
  | sent now conversation id sender content channel =>
    [.append conversation ⟨now, outgoingRecord id sender conversation content channel, none,
      by simp [Assoc.keys, outgoingRecord]⟩]

/-- The names that came with the messages of a customer, one place for each message. -/
def voices (id : String) : Traffic → List (Option String)
  | report _ batch => ((heard batch).filter (·.sender? == some id)).map (·.profileName?)
  | sent .. => []

end Traffic

theorem keepAll_store (now : String) (bot : Option String) (s : Store) (ms : List Message) :
    (keepAll Store.archive now bot s ms).2 =
      (ms.map fun m => .append m.conversation (Traffic.entry now m)).foldl
        Store.Operation.perform s := by
  induction ms generalizing s with
  | nil => rfl
  | cons m ms ih => exact ih _

theorem receive_store (now : String) (bot : Option String) (s : Store) (batch : Json) :
    (receive Store.archive now bot s batch).2.2 =
      (keepAll Store.archive now bot s (accepted batch)).2 := by
  cases hmember : batch.member "object" with
  | error f =>
    have hof : isOfProvider batch = false := by rw [isOfProvider, hmember]; rfl
    rw [receive, accepted, hmember, hof]
    rfl
  | ok object =>
    have hof : isOfProvider batch = (object.text? == some "whatsapp_business_account") := by
      rw [isOfProvider, hmember]; rfl
    rw [receive, accepted, hmember, hof]
    dsimp only
    split
    · rcases extract batch with ⟨f | ms, log⟩
      · rfl
      · cases ms <;> rfl
    · rfl

theorem take_eq (bot : Option String) (s : Store) (t : Traffic) :
    t.take bot s = t.operations.foldl Store.Operation.perform s := by
  cases t with
  | sent now conversation id sender content channel => rfl
  | report now batch =>
    rw [Traffic.take, receive_store, keepAll_store]
    rfl

/-- The store after some traffic. -/
def grown (bot : Option String) (ts : List Traffic) : Store :=
  ts.foldl (fun s t => t.take bot s) {}

theorem grown_eq (bot : Option String) (ts : List Traffic) :
    grown bot ts = Store.after (ts.flatMap Traffic.operations) := by
  rw [grown, Store.after, List.foldl_flatMap]
  congr 1
  funext s t
  exact take_eq bot s t

/-! ### The latest name and the latest message -/

/-- The names that came with the messages of a conversation, one place for each message. -/
def voices (ts : List Traffic) (id : String) : List (Option String) := ts.flatMap (·.voices id)

/-- The last name that a customer gave. -/
def knownName (ts : List Traffic) (id : String) : String :=
  ((voices ts id).filterMap (·)).getLast?.getD "Unknown"

theorem names_of_reports {es : List Element} {ms : List Message} (h : List.Forall₂ Reports es ms)
    (now id : String) :
    (Store.entries (ms.map fun m => .append m.conversation (Traffic.entry now m)) id).filterMap
        Store.Entry.name? =
      ((es.filter (·.sender? == some id)).map (·.profileName?)).map (·.getD "Unknown") := by
  induction h with
  | nil => rfl
  | @cons e m es ms hem _ ih =>
    obtain ⟨hname, hnonempty⟩ := hem.displayName_eq
    have hentry : (Traffic.entry now m).name? = some (e.profileName?.getD "Unknown") := by
      rw [Store.Entry.name?, ← hname]
      simp [Traffic.entry, Option.filter, hnonempty]
    rw [List.map_cons, ← List.singleton_append, Store.entries_append, List.filterMap_append, ih,
      Store.entries_singleton, List.filter_cons, hem.sender_eq]
    by_cases hid : m.conversation = id <;> simp [Store.Operation.appended?, hid, hentry]

theorem names_eq (ts : List Traffic) (id : String) :
    (Store.entries (ts.flatMap Traffic.operations) id).filterMap Store.Entry.name? =
      (voices ts id).map (·.getD "Unknown") := by
  induction ts with
  | nil => rfl
  | cons t ts ih =>
    rw [List.flatMap_cons, Store.entries_append, List.filterMap_append, ih, voices, voices,
      List.flatMap_cons, List.map_append]
    congr 1
    cases t with
    | sent now conversation mid sender content channel =>
      by_cases hid : conversation = id <;>
        simp [Store.entries, Traffic.operations, Traffic.voices, Store.Operation.appended?, hid,
          Store.Entry.name?]
    | report now batch => exact names_of_reports (reports_heard batch) now id

/-- A conversation goes by the name that came with its latest message. -/
theorem latestName_eq (ts : List Traffic) (id : String) :
    Store.latestName (ts.flatMap Traffic.operations) id =
      (voices ts id).getLast?.join.getD "Unknown" := by
  rw [Store.latestName, names_eq, List.getLast?_map]
  rcases (voices ts id).getLast? with - | - | name <;> rfl

/-- The name of the latest message is the last one that was given, unless it came without one after
there was one. -/
theorem latest_eq_known_iff (ts : List Traffic) (id : String) :
    (voices ts id).getLast?.join.getD "Unknown" = knownName ts id ↔
      (∀ said ∈ (voices ts id).getLast?, said.isSome) ∨ knownName ts id = "Unknown" := by
  rw [knownName]
  induction voices ts id using List.reverseRecOn with
  | nil => exact ⟨fun _ => Or.inr rfl, fun _ => rfl⟩
  | append_singleton names said _ =>
    rw [List.getLast?_concat, List.filterMap_append]
    cases said with
    | some name => simp
    | none =>
      have hnone : ¬ ∀ said ∈ some (none : Option String), said.isSome :=
        fun h => absurd (h none rfl) Bool.false_ne_true
      exact ⟨fun h => Or.inr h.symm, fun h => (h.resolve_left hnone).symm⟩

/-- A conversation that is listed goes by the name that came with its latest message, and by "Unknown"
if that one came without. This is the last name that the customer gave exactly if the latest message
came with a name, or if no other name than that was given before. -/
theorem shown_name_is_kept_iff (bot : Option String) (ts : List Traffic) (id : String) {v : Json}
    (hv : v ∈ Store.archive.conversations (grown bot ts))
    (hid : v.field? "id" = some (.str id)) :
    v.field? "customer_name" = some (.str ((voices ts id).getLast?.join.getD "Unknown")) ∧
    (v.field? "customer_name" = some (.str (knownName ts id)) ↔
      (∀ said ∈ (voices ts id).getLast?, said.isSome) ∨ knownName ts id = "Unknown") := by
  rw [grown_eq] at hv
  obtain ⟨c, hc, rfl⟩ := List.mem_map.1 hv
  have hsummary := (Store.recounts_after _).isSummary hc
  have hkey : c.id = id := by
    have := hsummary.id.symm.trans hid
    injection this with this
    injection this
  have hname := hsummary.customerName
  rw [hkey, latestName_eq] at hname
  refine ⟨hname, ?_⟩
  rw [hname, ← latest_eq_known_iff]
  simp

/-- Two messages of one customer come with one contact: the second has none, and the name that came
with the first is lost. -/
theorem known_name_lost_without_contact :
    let contact : Json := .obj [("profile", .obj [("name", .str "Sara")])]
    let hello : Json := .obj [("from", .str "7"), ("id", .str "m1"), ("type", .str "text"),
      ("text", .obj [("body", .str "hello")])]
    let again : Json := .obj [("from", .str "7"), ("id", .str "m2"), ("type", .str "text"),
      ("text", .obj [("body", .str "again")])]
    let change : Json := .obj [("field", .str "messages"), ("value", .obj [
      ("metadata", .obj [("phone_number_id", .str "1")]), ("contacts", .arr [contact]),
      ("messages", .arr [hello, again])])]
    let batch : Json := .obj [("object", .str "whatsapp_business_account"),
      ("entry", .arr [.obj [("changes", .arr [change])]])]
    let ts : List Traffic := [.report "noon" batch]
    ∃ v, v ∈ Store.archive.conversations (grown none ts) ∧ v.field? "id" = some (.str "7") ∧
      voices ts "7" = [some "Sara", none] ∧ knownName ts "7" = "Sara" ∧
      v.field? "customer_name" = some (.str "Unknown") ∧
      v.field? "customer_name" ≠ some (.str (knownName ts "7")) := by
  intro contact hello again change batch ts
  have hvoices : voices ts "7" = [some "Sara", none] := rfl
  have hknown : knownName ts "7" = "Sara" := rfl
  have hlisted : ∃ v, v ∈ Store.archive.conversations (grown none ts) ∧
      v.field? "id" = some (.str "7") := by
    have hlength : (Store.entries (ts.flatMap Traffic.operations) "7").length = 2 := rfl
    have hne : Store.entries (ts.flatMap Traffic.operations) "7" ≠ [] := by
      intro hnil
      rw [hnil] at hlength
      cases hlength
    obtain ⟨c, hc, hid⟩ := (Store.recounts_after _).exists_mem_latestFirst hne
    rw [grown_eq]
    exact ⟨c.summary, List.mem_map_of_mem hc, by rw [← hid]; rfl⟩
  obtain ⟨v, hv, hid⟩ := hlisted
  obtain ⟨hlast, hiff⟩ := shown_name_is_kept_iff none ts "7" hv hid
  rw [hvoices] at hlast
  refine ⟨v, hv, hid, hvoices, hknown, hlast, fun heq => ?_⟩
  rcases hiff.1 heq with hsaid | hunknown
  · rw [hvoices] at hsaid
    exact absurd (hsaid none rfl) Bool.false_ne_true
  · rw [hknown] at hunknown
    exact absurd hunknown (by decide)

end Inbox

end ChatFlow
