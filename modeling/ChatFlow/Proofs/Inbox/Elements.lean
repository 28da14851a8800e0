import Mathlib.Data.List.Forall2
import ChatFlow.Inbox

/-!
# The messages of a batch, one by one

A batch holds messages in lists, in changes, in entries. `Inbox.elements?` takes it apart: each
message goes with its position in its list, and with the contacts and the metadata that belong to that
list. Batches are searched element by element (`extract_of_elements?`), and one in which messages can
be found at all comes apart (`exists_elements?`). `Element.alone` is the batch with one element only,
and `extract_alone` says that an element holds in it what it holds where it comes from.
-/

namespace ChatFlow

namespace Json

/-- The list in a field, where nothing stands for the empty one. -/
def list? (v : Json) (k : String) : Option (List Json) :=
  match (v.member k).map (·.ifEmpty (arr [])) with
  | .ok (arr vs) => some vs
  | _ => none

theorem memberEach_of_list? {v : Json} {k : String} {vs : List Json} (h : v.list? k = some vs) :
    v.memberEach k = .ok vs := by
  unfold list? at h
  split at h
  · rename_i ws hws
    cases h
    cases hm : v.member k with
    | error f => rw [hm] at hws; cases hws
    | ok field =>
      rw [hm] at hws
      have hitems : field.ifEmpty (arr []) = arr vs := Except.ok.inj hws
      simp [memberEach, hm, hitems, bind, Except.bind, each]
  · cases h

theorem list?_or_texts_of_each {v : Json} {vs : List Json}
    (h : (v.ifEmpty (arr [])).each = .ok vs) :
    v.ifEmpty (arr []) = arr vs ∨ ∃ s rest, vs = str s :: rest := by
  cases hv : v.isEmpty with
  | true =>
    rw [ifEmpty, if_pos hv] at h ⊢
    cases h
    exact Or.inl rfl
  | false =>
    rw [ifEmpty, if_neg (by simp [hv])] at h ⊢
    cases v with
    | arr ws => cases h; exact Or.inl rfl
    | str s =>
      cases h
      obtain ⟨c, cs, hs⟩ : ∃ c cs, s.toList = c :: cs :=
        List.exists_cons_of_ne_nil fun hnil => by
          rw [String.toList_eq_nil_iff] at hnil
          subst hnil
          cases hv
      obtain ⟨r, ls, hl⟩ := Text.letters_eq_cons c cs
      exact Or.inr ⟨_, _, by rw [hs, hl]; rfl⟩
    | obj fields =>
      cases h
      cases fields with
      | nil => cases hv
      | cons e fields => exact Or.inr ⟨e.1, _, rfl⟩
    | null => cases h
    | bool b => cases h
    | int n => cases h
    | float x => cases h

theorem list?_or_texts {v : Json} {k : String} {vs : List Json} (h : v.memberEach k = .ok vs) :
    v.list? k = some vs ∨ ∃ s rest, vs = str s :: rest := by
  cases hm : v.member k with
  | error f => rw [memberEach, hm] at h; cases h
  | ok field =>
    rw [memberEach, hm] at h
    rcases list?_or_texts_of_each h with hlist | htexts
    · left
      simp [list?, hm, Except.map, hlist]
    · exact Or.inr htexts

theorem itemAt?_zero_of_error {v : Json} {i : Nat} {f : Fault} (h : v.itemAt? i = .error f) :
    v.itemAt? 0 = .error f := by
  cases v with
  | arr vs => cases h
  | str s => cases h
  | obj fields =>
    rw [itemAt?] at h ⊢
    split at h
    · cases h
      rw [if_pos (by omega)]
    · cases h
  | null => exact h
  | bool b => exact h
  | int n => exact h
  | float x => exact h

end Json

namespace Inbox

/-! ### Searching list by list -/

variable {α β : Type}

theorem findEach_congr {f : α → Found} {g : β → Found} {as : List α} {bs : List β}
    (h : List.Forall₂ (fun a b => f a = g b) as bs) : findEach f as = findEach g bs := by
  induction h with
  | nil => rfl
  | cons hab _ ih => rw [findEach, hab, ih, ← findEach]

theorem findEach_cons_ok {f : α → Found} {a : α} {as : List α} {ms : List Message}
    {log : List Log.Entry} (h : findEach f (a :: as) = (.ok ms, log)) :
    ∃ ns first rest more, f a = (.ok ns, first) ∧ findEach f as = (.ok rest, more) ∧
      ms = ns ++ rest ∧ log = first ++ more := by
  rw [findEach] at h
  split at h
  · cases h
  · rename_i ns first ha
    split at h
    · cases h
    · rename_i rest more has
      cases h
      exact ⟨ns, first, rest, more, ha, has, rfl, rfl⟩

theorem findIn_ok {r : Except Fault α} {f : α → Found} {ms : List Message} {log : List Log.Entry}
    (h : findIn r f = (.ok ms, log)) : ∃ a, r = .ok a ∧ f a = (.ok ms, log) := by
  cases r with
  | error e => cases h
  | ok a => exact ⟨a, rfl, h⟩

theorem findIn_congr {r : Except Fault α} {f g : α → Found} (h : ∀ a, r = .ok a → f a = g a) :
    findIn r f = findIn r g := by
  cases r with
  | error e => rfl
  | ok a => exact h a rfl

theorem findIn_pure (a : α) (f : α → Found) : findIn (pure a) f = f a := rfl

theorem findIn_bind (r : Except Fault α) (f : α → Except Fault β) (g : β → Found) :
    findIn (r >>= f) g = findIn r fun a => findIn (f a) g := by
  cases r <;> rfl

/-- A search that gets through all values gets through each. -/
theorem exists_ok_of_findEach {f : α → Found} {as : List α} {ms : List Message}
    {log : List Log.Entry} (h : findEach f as = (.ok ms, log)) {a : α} (ha : a ∈ as) :
    ∃ ns more, f a = (.ok ns, more) := by
  induction as generalizing ms log with
  | nil => cases ha
  | cons b as ih =>
    obtain ⟨ns, first, rest, more, hb, has, -, -⟩ := findEach_cons_ok h
    rcases List.mem_cons.1 ha with rfl | ha
    · exact ⟨ns, first, hb⟩
    · exact ih has ha

theorem forall₂_of_mapM {f : α → Option β} {as : List α} {bs : List β}
    (h : as.mapM f = some bs) : List.Forall₂ (fun a b => f a = some b) as bs := by
  induction as generalizing bs with
  | nil =>
    rw [List.mapM_nil] at h
    cases h
    exact .nil
  | cons a as ih =>
    rw [List.mapM_cons] at h
    cases ha : f a with
    | none => rw [ha] at h; cases h
    | some b =>
      cases has : as.mapM f with
      | none => rw [ha, has] at h; cases h
      | some rest =>
        rw [ha, has] at h
        cases h
        exact .cons ha (ih has)

theorem exists_mapM {f : α → Option β} {as : List α} (h : ∀ a ∈ as, ∃ b, f a = some b) :
    ∃ bs, as.mapM f = some bs := by
  induction as with
  | nil => exact ⟨[], List.mapM_nil⟩
  | cons a as ih =>
    obtain ⟨b, hb⟩ := h a List.mem_cons_self
    obtain ⟨bs, hbs⟩ := ih fun a' ha' => h a' (List.mem_cons_of_mem _ ha')
    exact ⟨b :: bs, by rw [List.mapM_cons, hb, hbs]; rfl⟩

/-- Parts that are taken apart into lists are searched like those lists. -/
theorem findEach_of_mapM {f : α → Found} {g : β → Found} {part : α → Option (List β)} {as : List α}
    {lists : List (List β)} (h : as.mapM part = some lists)
    (hpart : ∀ a bs, part a = some bs → f a = findEach g bs) :
    findEach f as = findEach g lists.flatten := by
  rw [findEach_flatten]
  exact findEach_congr ((forall₂_of_mapM h).imp fun a bs hbs => hpart a bs hbs)

/-- What is found under a field, if a text holds no messages, is found in a list. -/
theorem list?_of_findIn {v : Json} {k : String} {f : Json → Found}
    {ms : List Message} {log : List Log.Entry}
    (h : findIn (v.memberEach k) (findEach f) = (.ok ms, log))
    (htext : ∀ s ns more, f (.str s) ≠ (.ok ns, more)) :
    ∃ vs, v.list? k = some vs ∧ findEach f vs = (.ok ms, log) := by
  obtain ⟨vs, hvs, hfound⟩ := findIn_ok h
  rcases Json.list?_or_texts hvs with hlist | ⟨s, rest, rfl⟩
  · exact ⟨vs, hlist, hfound⟩
  · obtain ⟨ns, first, -, -, hs, -⟩ := findEach_cons_ok hfound
    exact absurd hs (htext s ns first)

/-! ### Elements -/

/-- A message of a batch as it stands there, with its position in its list and with the contacts and
the metadata beside that list. -/
structure Element where
  raw : Json
  position : Nat
  contacts : Json
  metadata : Json

/-- The elements of a change, which has some only if it reports messages. -/
def changeElements? (change : Json) : Option (List Element) := do
  let field ← (change.member "field").toOption
  if field.text? == some "messages" then
    let value ← (change.memberObject "value").toOption
    let contacts ← (value.member "contacts").toOption
    let metadata ← (value.member "metadata").toOption
    let messages ← value.list? "messages"
    return messages.zipIdx.map fun (raw, position) => { raw, position, contacts, metadata }
  else return []

/-- The elements of a batch in their order, if entries, changes, values and messages stand where and
as they should. -/
def elements? (batch : Json) : Option (List Element) := do
  let entries ← batch.list? "entry"
  let changes ← entries.mapM (·.list? "changes")
  let parts ← changes.flatten.mapM changeElements?
  return parts.flatten

namespace Element

variable (e : Element)

/-- What the element holds. -/
def find : Found :=
  findMessage (e.contacts.ifEmpty (.arr [])) (e.metadata.ifEmpty (.obj [])) (e.raw, e.position)

/-- The contacts with nothing but the one that belongs to the element. What is no list of contacts
stays as it is. -/
def ownContacts : Json :=
  match (e.contacts.ifEmpty (.arr [])).itemAt? e.position with
  | .ok contact => .arr contact.toList
  | .error _ => e.contacts

/-- The change that reports nothing but the element. -/
def change : Json := .obj [("field", .str "messages"), ("value", .obj [("metadata", e.metadata),
  ("contacts", e.ownContacts), ("messages", .arr [e.raw])])]

/-- The batch that reports nothing but the element. -/
def alone : Json := .obj [("object", .str "whatsapp_business_account"),
  ("entry", .arr [.obj [("changes", .arr [e.change])]])]

end Element

/-! ### Taking a batch apart -/

theorem findChange_of_changeElements? {change : Json} {es : List Element}
    (h : changeElements? change = some es) : findChange change = findEach Element.find es := by
  obtain ⟨field, hfield, h⟩ := Option.bind_eq_some_iff.1 h
  rw [findChange, ok_of_toOption hfield]
  simp only [findIn]
  split at h <;> rename_i hkind
  · obtain ⟨value, hvalue, h⟩ := Option.bind_eq_some_iff.1 h
    obtain ⟨contacts, hcontacts, h⟩ := Option.bind_eq_some_iff.1 h
    obtain ⟨metadata, hmetadata, h⟩ := Option.bind_eq_some_iff.1 h
    obtain ⟨messages, hmessages, h⟩ := Option.bind_eq_some_iff.1 h
    cases h
    rw [if_pos hkind, ok_of_toOption hvalue]
    simp only [Json.memberObject, ok_of_toOption hmetadata, ok_of_toOption hcontacts,
      Json.memberEach_of_list? hmessages, bind, Except.bind, pure, Except.pure]
    exact findEach_congr (List.forall₂_map_right_iff.2 (List.forall₂_same.2 fun _ _ => rfl))
  · cases h
    rw [if_neg hkind]
    rfl

theorem findIn_changes {entry : Json} {cs : List Json} (h : entry.list? "changes" = some cs) :
    findIn (entry.memberEach "changes") (findEach findChange) = findEach findChange cs := by
  rw [Json.memberEach_of_list? h, findIn]

theorem extract_of_elements? {batch : Json} {es : List Element} (h : elements? batch = some es) :
    extract batch = findEach Element.find es := by
  obtain ⟨entries, hentries, h⟩ := Option.bind_eq_some_iff.1 h
  obtain ⟨changes, hchanges, h⟩ := Option.bind_eq_some_iff.1 h
  obtain ⟨parts, hparts, h⟩ := Option.bind_eq_some_iff.1 h
  cases h
  rw [extract, Json.memberEach_of_list? hentries, findIn,
    findEach_of_mapM hchanges fun _ _ => findIn_changes,
    findEach_of_mapM hparts fun _ _ => findChange_of_changeElements?]

theorem exists_changeElements? {change : Json} {ms : List Message} {log : List Log.Entry}
    (h : findChange change = (.ok ms, log)) : ∃ es, changeElements? change = some es := by
  obtain ⟨field, hchange, h⟩ := findIn_ok h
  split at h <;> rename_i hkind
  · obtain ⟨parts, hparts, h⟩ := findIn_ok h
    obtain ⟨value, hvalue, hparts⟩ := ok_of_bind hparts
    obtain ⟨_, hfield, hparts⟩ := ok_of_bind hparts
    obtain ⟨metadata, hmetadata, -⟩ := ok_of_bind hfield
    obtain ⟨contacts, hcontacts, hparts⟩ := ok_of_bind hparts
    obtain ⟨messages, hmessages, hparts⟩ := ok_of_bind hparts
    cases hparts
    rcases Json.list?_or_texts hmessages with hlist | ⟨s, rest, rfl⟩
    · refine ⟨messages.zipIdx.map fun (raw, position) => ⟨raw, position, contacts, metadata⟩, ?_⟩
      simp only [changeElements?, hchange, Except.toOption, bind, Option.bind, if_pos hkind, hvalue,
        hcontacts, hmetadata, hlist]
      rfl
    · obtain ⟨ns, first, -, -, hs, -⟩ := findEach_cons_ok h
      cases hs
  · refine ⟨[], ?_⟩
    rw [changeElements?, hchange]
    exact if_neg hkind

theorem exists_elements? {batch : Json} {ms : List Message} {log : List Log.Entry}
    (h : extract batch = (.ok ms, log)) : ∃ es, elements? batch = some es := by
  obtain ⟨entries, hentries, hfound⟩ := list?_of_findIn h fun s ns more hs => by cases hs
  have hentry : ∀ entry ∈ entries, ∃ cs, entry.list? "changes" = some cs := by
    intro entry hmem
    obtain ⟨ns, more, hns⟩ := exists_ok_of_findEach hfound hmem
    obtain ⟨cs, hcs, -⟩ := list?_of_findIn hns fun s ns more hs => by cases hs
    exact ⟨cs, hcs⟩
  obtain ⟨changes, hchanges⟩ := exists_mapM hentry
  have hchange : ∀ change ∈ changes.flatten, ∃ es, changeElements? change = some es := by
    intro change hmem
    rw [findEach_of_mapM hchanges fun _ _ => findIn_changes] at hfound
    obtain ⟨ns, more, hns⟩ := exists_ok_of_findEach hfound hmem
    exact exists_changeElements? hns
  obtain ⟨parts, hparts⟩ := exists_mapM hchange
  exact ⟨parts.flatten, by simp [elements?, hentries, hchanges, hparts]⟩

/-! ### Elements alone -/

namespace Element

variable (e : Element)

theorem itemAt?_ownContacts :
    (e.ownContacts.ifEmpty (.arr [])).itemAt? 0 =
      (e.contacts.ifEmpty (.arr [])).itemAt? e.position := by
  unfold ownContacts
  split
  · rename_i contact h
    rw [h]
    cases contact <;> rfl
  · rename_i f h
    rw [h]
    exact Json.itemAt?_zero_of_error h

theorem extract_alone : extract e.alone = e.find := by
  have hbatch : extract e.alone = findEach (fun entry : Json =>
      findIn (entry.memberEach "changes") <| findEach findChange)
        [.obj [("changes", .arr [e.change])]] := rfl
  have hentry : findIn ((Json.obj [("changes", .arr [e.change])]).memberEach "changes")
      (findEach findChange) = findEach findChange [e.change] := rfl
  have hchange : findChange e.change =
      findEach (findMessage (e.ownContacts.ifEmpty (.arr [])) (e.metadata.ifEmpty (.obj [])))
        [(e.raw, 0)] := rfl
  rw [hbatch, findEach_singleton, hentry, findEach_singleton, hchange, findEach_singleton, find,
    findMessage, findMessage]
  simp only [itemAt?_ownContacts]

end Element

end Inbox

end ChatFlow
