import ChatFlow.Proofs.Store.History

/-!
# What the store shows

The listing has one summary for every conversation that a message came in for, the most recently
updated first, and the earlier conversation first where two were updated at the same time
(`ComesBefore`). An operation leaves the messages, the summaries and the order of all conversations
alone that it is not about. Together with the messages, this is what a reader of the store can see.
-/

namespace ChatFlow.Store

/-! ### The order of the listing -/

/-- One conversation is listed before another. -/
def ComesBefore (ops : List Operation) (a b : String) : Prop :=
  latestTime ops b < latestTime ops a ∨
    latestTime ops b = latestTime ops a ∧ firstAppend ops a < firstAppend ops b

theorem ComesBefore.asymm {ops : List Operation} {a b : String} (h : ComesBefore ops a b) :
    ¬ ComesBefore ops b a := by
  rintro (hlt | ⟨heq, hfirst⟩) <;> rcases h with hlt' | ⟨heq', hfirst'⟩
  · exact lt_asymm hlt hlt'
  · exact absurd (heq' ▸ hlt) (lt_irrefl _)
  · exact absurd (heq ▸ hlt') (lt_irrefl _)
  · omega

/-- A later operation about another conversation does not change the order of two. -/
theorem ComesBefore.concat {ops : List Operation} {op : Operation} {a b : String}
    (h : ComesBefore ops a b) (ha : op.about? ≠ some a) (hb : op.about? ≠ some b)
    (ha' : entries ops a ≠ []) (hb' : entries ops b ≠ []) : ComesBefore (ops ++ [op]) a b := by
  rw [ComesBefore, latestTime, latestTime, entries_concat_of_ne ha, entries_concat_of_ne hb,
    firstAppend_concat ops ha', firstAppend_concat ops hb']
  exact h

namespace Recounts

variable {s : Store} {ops : List Operation} (h : Recounts s ops)
include h

theorem mem_latestFirst {c : Conversation} (hc : c ∈ s.latestFirst) :
    s.conversations.get? c.id = some c := by
  rw [latestFirst, List.mem_mergeSort] at hc
  obtain ⟨e, he, rfl⟩ := List.mem_map.1 hc
  have hget := Assoc.get?_of_mem h.nodup_keys he
  rwa [(h.sums e.1 e.2 hget).id]

theorem sums_of_mem {c : Conversation} (hc : c ∈ s.latestFirst) : Sums c ops c.id :=
  h.sums c.id c (h.mem_latestFirst hc)

theorem entries_ne_nil {c : Conversation} (hc : c ∈ s.latestFirst) : entries ops c.id ≠ [] := by
  rw [← h.keys, Assoc.mem_keys_iff, h.mem_latestFirst hc]
  rfl

theorem updatedAt_eq {c : Conversation} (hc : c ∈ s.latestFirst) :
    c.updatedAt = latestTime ops c.id := by
  have hlast := List.getLast?_eq_some_getLast (h.entries_ne_nil hc)
  rw [latestTime, hlast]
  exact ((h.sums_of_mem hc).last _ hlast).1

theorem ids_conversations : (s.conversations.map (·.2)).map (·.id) = s.conversations.keys := by
  rw [List.map_map]
  refine List.map_congr_left fun e he => ?_
  exact (h.sums e.1 e.2 (Assoc.get?_of_mem h.nodup_keys he)).id

theorem ids_perm : (s.latestFirst.map (·.id)).Perm s.conversations.keys := by
  rw [← h.ids_conversations]
  exact (List.mergeSort_perm _ _).map _

theorem exists_mem_latestFirst {key : String} (hne : entries ops key ≠ []) :
    ∃ c ∈ s.latestFirst, c.id = key := by
  have hmem := h.ids_perm.mem_iff.2 ((h.keys key).2 hne)
  exact List.mem_map.1 hmem

theorem pairwise_latestFirst :
    s.latestFirst.Pairwise fun a b => ComesBefore ops a.id b.id := by
  have horder : (s.conversations.map (·.2)).Pairwise
      fun a b => firstAppend ops a.id < firstAppend ops b.id := by
    have := h.order
    rw [← h.ids_conversations] at this
    rw [List.pairwise_map] at this
    exact this
  have hsorted : s.latestFirst.Pairwise _ :=
    pairwise_mergeSort_of_pairwise
      (by simpa using fun a b c hab hbc => le_trans hbc hab)
      (by simpa using fun a b : Conversation => le_total b.updatedAt a.updatedAt) horder
  refine hsorted.imp_of_mem fun {a b} ha hb hab => ?_
  simp only [decide_eq_true_eq, h.updatedAt_eq ha, h.updatedAt_eq hb] at hab
  rcases lt_or_eq_of_le hab.1 with hlt | heq
  · exact Or.inl hlt
  · exact Or.inr ⟨heq, hab.2 (le_of_eq heq.symm)⟩

end Recounts

/-! ### Summaries, as they are shown -/

/-- A shown summary is the account of the operations on a conversation. -/
structure IsSummary (ops : List Operation) (key : String) (v : Json) : Prop where
  id : v.field? "id" = some (.str key)
  unread : v.field? "unread_count" = some (.int (unreadCount ops key))
  customerName : v.field? "customer_name" = some (.str (latestName ops key))
  lastMessage : v.field? "last_message" = (entries ops key).getLast?.map Entry.content
  updatedAt : v.field? "updated_at" = some (.str (latestTime ops key))

theorem Recounts.isSummary {s : Store} {ops : List Operation} (h : Recounts s ops)
    {c : Conversation} (hc : c ∈ s.latestFirst) : IsSummary ops c.id c.summary := by
  have hsums := h.sums_of_mem hc
  have hlast := List.getLast?_eq_some_getLast (h.entries_ne_nil hc)
  refine ⟨rfl, ?_, ?_, ?_, ?_⟩
  · rw [← hsums.unread]; rfl
  · rw [← hsums.customerName]; rfl
  · rw [hlast, Option.map_some, ← (hsums.last _ hlast).2]; rfl
  · rw [← h.updatedAt_eq hc]; rfl

/-! ### What an operation leaves alone -/

/-- The shown summaries of all conversations but one. -/
def others (key : String) (vs : List Json) : List Json :=
  vs.filter fun v => decide ((v.field? "id").bind Json.text? ≠ some key)

theorem others_conversations (s : Store) (key : String) :
    others key (archive.conversations s) =
      (s.latestFirst.filter fun c => decide (c.id ≠ key)).map (·.summary) := by
  rw [others, archive, List.filter_map]
  congr 1
  refine List.filter_congr fun c _ => ?_
  simp [Conversation.summary, Json.field?, Assoc.get?, Json.text?]

theorem read_messages (s : Store) (id : String) :
    (archive.messages s id).1 = ((s.conversations.get? id).map (·.messages)).getD [] := by
  show (s.read id).1 = _
  rw [read]
  cases s.conversations.get? id <;> rfl

variable (s : Store) {op : Operation} {key : String}

theorem erase_perform (h : op.about? = some key) :
    (op.perform s).conversations.erase key = s.conversations.erase key := by
  cases op with
  | append id e =>
    cases h
    exact Assoc.erase_put_self _ _ _
  | list => cases h
  | read id =>
    cases h
    show (s.read key).2.conversations.erase key = _
    rw [read]
    cases s.conversations.get? key with
    | none => rfl
    | some c => exact Assoc.erase_put_self _ _ _

theorem get?_perform_of_ne (h : op.about? = some key) {id : String} (hid : id ≠ key) :
    (op.perform s).conversations.get? id = s.conversations.get? id := by
  have := congrArg (Assoc.get? · id) (erase_perform s h)
  simpa [Assoc.get?_erase, Ne.symm hid] using this

variable {s} {ops : List Operation}

theorem Recounts.conversations_erase (h : Recounts s ops) (key : String) :
    (s.conversations.map (·.2)).filter (fun c => decide (c.id ≠ key)) =
      (s.conversations.erase key).map (·.2) := by
  rw [List.filter_map, ← Assoc.filter_ne_eq_erase]
  congr 1
  refine List.filter_congr fun e he => ?_
  have hid := (h.sums e.1 e.2 (Assoc.get?_of_mem h.nodup_keys he)).id
  rw [Function.comp, hid, decide_not]
  rfl

/-- The other conversations stand as they stood. -/
theorem Recounts.filter_latestFirst (h : Recounts s ops) (hop : op.about? = some key) :
    (op.perform s).latestFirst.filter (fun c => decide (c.id ≠ key)) =
      s.latestFirst.filter fun c => decide (c.id ≠ key) := by
  have h' := h.perform op
  refine List.Perm.eq_of_pairwise
    (fun a b _ _ hab hba => absurd hba (ComesBefore.asymm hab))
    (h'.pairwise_latestFirst.filter _) ?_ ?_
  · refine (h.pairwise_latestFirst.filter _).imp_of_mem fun {a b} ha hb hab => ?_
    obtain ⟨ha, hak⟩ := List.mem_filter.1 ha
    obtain ⟨hb, hbk⟩ := List.mem_filter.1 hb
    have hne : ∀ c : Conversation, decide (c.id ≠ key) = true → op.about? ≠ some c.id := by
      intro c hc heq
      exact of_decide_eq_true hc (Option.some.inj (heq.symm.trans hop))
    exact hab.concat (hne a hak) (hne b hbk) (h.entries_ne_nil ha) (h.entries_ne_nil hb)
  · have hsort : ∀ s : Store, (s.latestFirst.filter fun c => decide (c.id ≠ key)).Perm
        ((s.conversations.map (·.2)).filter fun c => decide (c.id ≠ key)) :=
      fun s => (List.mergeSort_perm _ _).filter _
    refine (hsort _).trans (List.Perm.trans ?_ (hsort s).symm)
    rw [h.conversations_erase key, h'.conversations_erase key, erase_perform s hop]

/-- The store is the history of its messages. Whatever was appended, listed and read, the messages
of a conversation are those that came in for it, each as it came, and ids that the store makes up do
not repeat among them. The listing has every conversation that something came in for exactly once,
in the order of `ComesBefore`, each with the account of what came in. Listing changes nothing, and
any other operation nothing for the conversations that it is not about. -/
theorem shows_history (ops : List Operation) :
    (∀ id, let ms := (archive.messages (after ops) id).1
      AreKeptAs (entries ops id) ms ∧
      ((entries ops id).zip ms).Pairwise fun a b =>
        a.1.givenId? = none → b.1.givenId? = none → a.2.get? "id" ≠ b.2.get? "id") ∧
    (∃ ids : List String, ids.Nodup ∧ (∀ id, id ∈ ids ↔ entries ops id ≠ []) ∧
      ids.Pairwise (ComesBefore ops) ∧
      List.Forall₂ (IsSummary ops) ids (archive.conversations (after ops))) ∧
    after (ops ++ [.list]) = after ops ∧
    (∀ op key, op.about? = some key →
      others key (archive.conversations (after (ops ++ [op]))) =
        others key (archive.conversations (after ops)) ∧
      ∀ id, id ≠ key → (archive.messages (after (ops ++ [op])) id).1 =
        (archive.messages (after ops) id).1) := by
  have h := recounts_after ops
  refine ⟨fun id => ?_, ?_, ?_, fun op key hop => ⟨?_, fun id hid => ?_⟩⟩
  · have hkept : AreKeptAs (entries ops id) (archive.messages (after ops) id).1 := by
      rw [read_messages]
      cases hget : (after ops).conversations.get? id with
      | none => rw [h.entries_eq_nil hget]; exact List.Forall₂.nil
      | some c => exact (h.sums id c hget).messages
    exact ⟨hkept, hkept.ids_differ⟩
  · refine ⟨(after ops).latestFirst.map (·.id), ?_, fun id => ?_, ?_, ?_⟩
    · exact h.ids_perm.nodup_iff.2 h.nodup_keys
    · rw [h.ids_perm.mem_iff]
      exact h.keys id
    · exact List.pairwise_map.2 h.pairwise_latestFirst
    · show List.Forall₂ _ _ ((after ops).latestFirst.map (·.summary))
      rw [List.forall₂_map_left_iff, List.forall₂_map_right_iff]
      exact List.forall₂_same.2 fun c hc => h.isSummary hc
  · exact after_concat ops .list
  · rw [after_concat, others_conversations, others_conversations, h.filter_latestFirst hop]
  · rw [after_concat, read_messages, read_messages, get?_perform_of_ne _ hop hid]

end ChatFlow.Store
