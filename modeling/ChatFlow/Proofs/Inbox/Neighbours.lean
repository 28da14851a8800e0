import ChatFlow.Proofs.Inbox.Elements

/-!
# Messages that cannot be read, and their neighbours

A message without a sender is left out of its batch, but one that cannot be read is not: the search
stops at it, and the whole batch is lost. `batch_found_iff_each_readable` says so: a batch holds the
messages that its elements hold alone exactly if each of them can be read, and otherwise nothing in
it is found, nothing is kept and nothing goes to the bot.
-/

namespace ChatFlow.Inbox

variable {α : Type} {f : α → Found} {as : List α}

/-! ### The first failure -/

theorem findEach_of_ok {g : α → List Message} (h : ∀ a ∈ as, (f a).1 = .ok (g a)) :
    (findEach f as).1 = .ok (as.flatMap g) := by
  induction as with
  | nil => rfl
  | cons a as ih =>
    have ha := h a List.mem_cons_self
    have has := ih fun b hb => h b (List.mem_cons_of_mem _ hb)
    rw [findEach, List.flatMap_cons]
    generalize f a = found at ha
    generalize findEach f as = rest at has
    obtain ⟨r, log⟩ := found
    obtain ⟨r', more⟩ := rest
    cases ha
    cases has
    rfl

theorem exists_error_of_findEach {e : Fault} (h : (findEach f as).1 = .error e) :
    ∃ before a after, as = before ++ a :: after ∧ (∀ b ∈ before, ∃ ms, (f b).1 = .ok ms) ∧
      (f a).1 = .error e := by
  induction as with
  | nil => cases h
  | cons a as ih =>
    rw [findEach] at h
    split at h
    · rename_i e' log ha
      exact ⟨[], a, as, rfl, fun b hb => absurd hb List.not_mem_nil, by rw [ha]; exact h⟩
    · rename_i ms log ha
      split at h
      · rename_i e' more has
        obtain ⟨before, a', after, rfl, hbefore, ha'⟩ := ih (by rw [has]; exact h)
        refine ⟨a :: before, a', after, rfl, fun b hb => ?_, ha'⟩
        rcases List.mem_cons.1 hb with rfl | hb
        · exact ⟨ms, by rw [ha]⟩
        · exact hbefore b hb
      · cases h

theorem findEach_of_error {before after : List α} {a : α} {e : Fault}
    (hbefore : ∀ b ∈ before, ∃ ms, (f b).1 = .ok ms) (ha : (f a).1 = .error e) :
    (findEach f (before ++ a :: after)).1 = .error e := by
  induction before with
  | nil =>
    rw [List.nil_append, findEach]
    generalize f a = found at ha
    obtain ⟨r, log⟩ := found
    cases ha
    rfl
  | cons b before ih =>
    obtain ⟨ms, hb⟩ := hbefore b List.mem_cons_self
    have hrest := ih fun c hc => hbefore c (List.mem_cons_of_mem _ hc)
    rw [List.cons_append, findEach]
    generalize f b = found at hb
    generalize findEach f (before ++ a :: after) = rest at hrest
    obtain ⟨r, log⟩ := found
    obtain ⟨r', more⟩ := rest
    cases hb
    cases hrest
    rfl

theorem exists_ok_of_ok {ms : List Message} (h : (findEach f as).1 = .ok ms) {a : α}
    (ha : a ∈ as) : ∃ ns, (f a).1 = .ok ns := by
  obtain ⟨ns, log, hns⟩ := exists_ok_of_findEach (Prod.ext h rfl) ha
  exact ⟨ns, by rw [hns]⟩

/-! ### Batches -/

/-- The messages that an element holds if it is reported alone: none if it cannot be read. -/
def Element.messages (e : Element) : List Message := (extract e.alone).1.toOption.getD []

theorem Element.extract_alone_of_ok {e : Element} {ms : List Message}
    (h : (extract e.alone).1 = .ok ms) : (extract e.alone).1 = .ok e.messages := by
  rw [messages, h]; rfl

theorem receive_of_extract_error {σ : Type} (a : Archive σ) (now : String) (bot : Option String)
    (s : σ) {batch : Json} {f : Fault} (h : (extract batch).1 = .error f) :
    (receive a now bot s batch).2.2 = s ∧
      ∀ r ms, (receive a now bot s batch).1 = .ok (r, ms) → ms = [] := by
  generalize hx : extract batch = found at h
  obtain ⟨r, log⟩ := found
  cases h
  unfold receive
  split
  · exact ⟨rfl, fun r ms hr => by cases hr⟩
  · split
    · rw [hx]
      exact ⟨rfl, fun r ms hr => by cases hr⟩
    · exact ⟨rfl, fun r ms hr => by cases hr; rfl⟩

/-- A batch whose entries, changes, values and messages stand as they should holds, in their order,
the messages that its elements hold if they are reported alone, provided that each of them can be
read. If one cannot, the batch fails as the first such element does: no message of it is found, none
is kept, and none is handed on. -/
theorem batch_found_iff_each_readable {batch : Json} {es : List Element}
    (h : elements? batch = some es) :
    ((extract batch).1 = .ok (es.flatMap Element.messages) ↔
      ∀ e ∈ es, ∃ ms, (extract e.alone).1 = .ok ms) ∧
    ∀ e ∈ es, ∀ f, (extract e.alone).1 = .error f →
      (∃ before first after g, es = before ++ first :: after ∧
        (∀ b ∈ before, ∃ ms, (extract b.alone).1 = .ok ms) ∧
        (extract first.alone).1 = .error g ∧ (extract batch).1 = .error g) ∧
      ∀ (σ : Type) (a : Archive σ) (now : String) (bot : Option String) (s : σ),
        (receive a now bot s batch).2.2 = s ∧
          ∀ r ms, (receive a now bot s batch).1 = .ok (r, ms) → ms = [] := by
  have hbatch : extract batch = findEach (fun e : Element => extract e.alone) es := by
    rw [extract_of_elements? h]
    exact congrArg (findEach · es) (funext fun e => e.extract_alone.symm)
  constructor
  · constructor
    · intro hfound e he
      rw [hbatch] at hfound
      exact exists_ok_of_ok hfound he
    · intro hall
      rw [hbatch]
      exact findEach_of_ok fun e he => let ⟨_, hms⟩ := hall e he; e.extract_alone_of_ok hms
  · intro e he f hf
    cases hx : (extract batch).1 with
    | ok ms =>
      rw [hbatch] at hx
      obtain ⟨ns, hns⟩ := exists_ok_of_ok hx he
      rw [hf] at hns
      cases hns
    | error g =>
      have hfirst := hx
      rw [hbatch] at hfirst
      obtain ⟨before, first, after, hes, hbefore, hg⟩ := exists_error_of_findEach hfirst
      exact ⟨⟨before, first, after, g, hes, hbefore, hg, rfl⟩,
        fun σ a now bot s => receive_of_extract_error a now bot s hx⟩

/-- The second of two messages has a text where an object should be. Alone, the first is found;
together, neither is. -/
theorem batch_lost_to_bad_neighbour :
    let ada : Json := .obj [("profile", .obj [("name", .str "Ada")])]
    let bo : Json := .obj [("profile", .obj [("name", .str "Bo")])]
    let metadata : Json := .obj [("phone_number_id", .str "1")]
    let contacts : Json := .arr [ada, bo]
    let good : Json := .obj [("from", .str "7"), ("id", .str "m1"), ("type", .str "text"),
      ("text", .obj [("body", .str "hello")])]
    let bad : Json := .obj [("from", .str "8"), ("id", .str "m2"), ("type", .str "text"),
      ("text", .str "hello")]
    let change : Json := .obj [("field", .str "messages"), ("value", .obj [("metadata", metadata),
      ("contacts", contacts), ("messages", .arr [good, bad])])]
    let batch : Json := .obj [("object", .str "whatsapp_business_account"),
      ("entry", .arr [.obj [("changes", .arr [change])]])]
    let first : Element := ⟨good, 0, contacts, metadata⟩
    let second : Element := ⟨bad, 1, contacts, metadata⟩
    let m : Message := ⟨some "m1", "7", "hello", "Ada", "text", some "1", none, .null, .null, .null⟩
    elements? batch = some [first, second] ∧ (extract first.alone).1 = .ok [m] ∧
      (extract second.alone).1 = .error .notObject ∧ (extract batch).1 = .error .notObject ∧
      (extract batch).1 ≠ .ok ([first, second].flatMap Element.messages) := by
  intro ada bo metadata contacts good bad change batch first second m
  have hes : elements? batch = some [first, second] := rfl
  have hfirst : (extract first.alone).1 = .ok [m] := rfl
  have hsecond : (extract second.alone).1 = .error .notObject := rfl
  have hmem : second ∈ [first, second] := List.mem_cons_of_mem _ List.mem_cons_self
  obtain ⟨hiff, -⟩ := batch_found_iff_each_readable hes
  refine ⟨hes, hfirst, hsecond, rfl, fun hall => ?_⟩
  obtain ⟨ms, hms⟩ := hiff.1 hall second hmem
  rw [hsecond] at hms
  cases hms

end ChatFlow.Inbox
