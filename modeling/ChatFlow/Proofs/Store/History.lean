import ChatFlow.Store
import Mathlib

/-!
# The store as the history of its messages

Messages come in, conversations are listed, messages are read, in any order. What the store shows
afterwards is told by the operations alone: the messages of a conversation are the ones that came
in for it, and its summary is the account of them (`Conversation.Sums`). `Recounts` says so of the
whole store; every operation keeps it, and the listing is read off it.
-/

namespace ChatFlow

/-! ### Sorting without disturbing ties -/

/-- Sorting keeps what stood before in front of what stood behind, where the order leaves it open. -/
theorem pairwise_mergeSort_of_pairwise {α : Type} {le : α → α → Bool} {R : α → α → Prop}
    (trans : ∀ a b c, le a b → le b c → le a c) (total : ∀ a b, le a b || le b a) {l : List α}
    (h : l.Pairwise R) :
    (l.mergeSort le).Pairwise fun a b => le a b ∧ (le b a → R a b) := by
  refine List.pairwise_iff_forall_sublist.2 fun {a b} hab => ?_
  have hle : le a b := List.pairwise_iff_forall_sublist.1 (List.pairwise_mergeSort trans total l) hab
  refine ⟨hle, fun hba => ?_⟩
  -- the elements that tie with `a` are the same list before and after
  let tied : α → Bool := fun x => le a x && le x a
  have hsorted : (l.filter tied).Pairwise (le · ·) := by
    refine List.pairwise_of_forall_mem_list fun x hx y hy => ?_
    simp only [tied, List.mem_filter, Bool.and_eq_true] at hx hy
    exact trans x a y hx.2.2 hy.2.1
  have hsub : (l.filter tied).Sublist ((l.mergeSort le).filter tied) := by
    have := (List.sublist_mergeSort trans total hsorted List.filter_sublist).filter tied
    simpa using this
  have heq : l.filter tied = (l.mergeSort le).filter tied :=
    hsub.eq_of_length ((List.mergeSort_perm l le).filter tied).length_eq.symm
  have haa : le a a := by simpa using total a a
  have htied : [a, b].filter tied = [a, b] := by simp [tied, hle, hba, haa]
  have hpair : [a, b].Sublist l := by
    have := hab.filter tied
    rw [htied, ← heq] at this
    exact this.trans List.filter_sublist
  exact List.pairwise_iff_forall_sublist.1 h hpair

namespace Store

/-! ### Operations and their history -/

/-- A message on its way into the store: when it comes, its fields, and the customer's name if one
comes with it. -/
structure Entry where
  time : String
  record : Record
  customerName : Option String
  nodup_keys : record.keys.Nodup

namespace Entry

def name? (e : Entry) : Option String := e.customerName.filter (! ·.isEmpty)

def content (e : Entry) : Json := (e.record.get? "content").getD (.str "")

/-- The id that a message brings along, if it is not empty. -/
def givenId? (e : Entry) : Option Json := (e.record.get? "id").filter (! ·.isEmpty)

/-- The message as it is kept in the place `i`: its own fields, with an id and a time added where it
has none. -/
structure IsKeptAs (e : Entry) (i : Nat) (m : Record) : Prop where
  nodup_keys : m.keys.Nodup
  id : m.get? "id" = some (e.givenId?.getD (.str ("msg_" ++ toString i)))
  created : m.get? "created_at" = some ((e.record.get? "created_at").getD (.str e.time))
  other : ∀ k, k ≠ "id" → k ≠ "created_at" → m.get? k = e.record.get? k

end Entry

inductive Operation where
  | append (id : String) (e : Entry)
  | list
  | read (id : String)

namespace Operation

/-- The conversation that an operation is about. -/
def about? : Operation → Option String
  | append id _ | read id => some id
  | list => none

/-- The message that an operation brings in for a conversation. -/
def appended? (id : String) : Operation → Option Entry
  | append id' e => if id' = id then some e else none
  | list | read _ => none

def reads (id : String) : Operation → Bool
  | read id' => id' = id
  | append _ _ | list => false

def perform (s : Store) : Operation → Store
  | append id e => (archive.append s e.time id e.record e.customerName).2.2
  | list => s
  | read id => (archive.messages s id).2

variable {op : Operation} {id : String}

theorem appended?_eq_none (h : op.about? ≠ some id) : op.appended? id = none := by
  cases op with
  | append id' e => exact if_neg fun heq => h (congrArg some heq)
  | list => rfl
  | read id' => rfl

theorem reads_eq_false (h : op.about? ≠ some id) : op.reads id = false := by
  cases op with
  | append id' e => rfl
  | list => rfl
  | read id' => exact decide_eq_false fun heq => h (congrArg some heq)

end Operation

/-- The store after some operations. -/
def after (ops : List Operation) : Store := ops.foldl Operation.perform {}

theorem after_concat (ops : List Operation) (op : Operation) :
    after (ops ++ [op]) = op.perform (after ops) := by
  rw [after, List.foldl_append]; rfl

/-- The messages that came in for a conversation. -/
def entries (ops : List Operation) (id : String) : List Entry := ops.filterMap (·.appended? id)

/-- The messages of the customer since the conversation was last read. -/
def unreadCount (ops : List Operation) (id : String) : Nat :=
  (entries (ops.rtakeWhile fun op => !op.reads id) id).countP
    fun e => Conversation.isFromCustomer e.record

def latestName (ops : List Operation) (id : String) : String :=
  ((entries ops id).filterMap Entry.name?).getLast?.getD "Unknown"

def latestTime (ops : List Operation) (id : String) : String :=
  ((entries ops id).getLast?.map Entry.time).getD ""

/-- The place of the operation that brought in the first message of a conversation. -/
def firstAppend (ops : List Operation) (id : String) : Nat :=
  ops.findIdx fun op => (op.appended? id).isSome

section Concat

variable (ops : List Operation) {op : Operation} {id : String}

theorem entries_append (ops' : List Operation) :
    entries (ops ++ ops') id = entries ops id ++ entries ops' id := List.filterMap_append

theorem entries_singleton : entries [op] id = (op.appended? id).toList := rfl

theorem entries_concat :
    entries (ops ++ [op]) id = entries ops id ++ (op.appended? id).toList :=
  entries_append ops [op]

theorem unreadCount_concat :
    unreadCount (ops ++ [op]) id = if op.reads id then 0 else
      unreadCount ops id +
        (op.appended? id).toList.countP fun e => Conversation.isFromCustomer e.record := by
  rw [unreadCount, List.rtakeWhile_concat]
  cases op.reads id with
  | true => rfl
  | false => simp [entries_concat, unreadCount]

theorem unreadCount_eq_zero (h : entries ops id = []) : unreadCount ops id = 0 := by
  have hsuffix := (List.rtakeWhile_suffix (fun op : Operation => !op.reads id) ops).sublist
  have hnil : entries (ops.rtakeWhile fun op => !op.reads id) id = [] := by
    have := hsuffix.filterMap (·.appended? id)
    rw [show ops.filterMap (·.appended? id) = [] from h] at this
    exact List.sublist_nil.1 this
  rw [unreadCount, hnil]; rfl

theorem firstAppend_lt (h : entries ops id ≠ []) : firstAppend ops id < ops.length := by
  rw [firstAppend, List.findIdx_lt_length]
  obtain ⟨e, he⟩ := List.exists_mem_of_ne_nil _ h
  obtain ⟨op, hop, hentry⟩ := List.mem_filterMap.1 he
  exact ⟨op, hop, by rw [hentry]; rfl⟩

theorem firstAppend_concat (h : entries ops id ≠ []) :
    firstAppend (ops ++ [op]) id = firstAppend ops id := by
  rw [firstAppend, List.findIdx_append]
  exact if_pos (firstAppend_lt ops h)

theorem firstAppend_concat_new (h : entries ops id = []) (hop : (op.appended? id).isSome) :
    firstAppend (ops ++ [op]) id = ops.length := by
  have hnone : ¬ firstAppend ops id < ops.length := by
    rw [firstAppend, List.findIdx_lt_length]
    rintro ⟨op', hmem, hsome⟩
    obtain ⟨e, he⟩ := Option.isSome_iff_exists.1 hsome
    have : e ∈ entries ops id := List.mem_filterMap.2 ⟨op', hmem, he⟩
    rw [h] at this
    cases this
  rw [firstAppend] at hnone ⊢
  rw [List.findIdx_append, if_neg hnone]
  simp [List.findIdx_cons, hop]

variable {ops} (h : op.about? ≠ some id)
include h

theorem entries_concat_of_ne : entries (ops ++ [op]) id = entries ops id := by
  rw [entries_concat, Operation.appended?_eq_none h]; exact List.append_nil _

theorem unreadCount_concat_of_ne : unreadCount (ops ++ [op]) id = unreadCount ops id := by
  rw [unreadCount_concat, Operation.appended?_eq_none h, Operation.reads_eq_false h]; rfl

end Concat

/-! ### Messages as they are kept -/

/-- Messages that are kept in the order in which they came. -/
def AreKeptAs (es : List Entry) (ms : List Record) : Prop :=
  List.Forall₂ (fun e m => e.1.IsKeptAs e.2 m) es.zipIdx ms

theorem isKeptAs_stored (c : Conversation) (e : Entry) :
    e.IsKeptAs c.messages.length (c.stored e.time e.record) := by
  have hfilter : e.record.filter (·.1 != "id") = e.record.erase "id" :=
    Assoc.filter_ne_eq_erase _ _
  have hget : ∀ k, (c.stored e.time e.record).get? k =
      ((e.record.erase "id").get? k).or (Assoc.get? [
        ("id", ((e.record.get? "id").getD .null).ifEmpty
          (.str ("msg_" ++ toString c.messages.length))),
        ("created_at", .str e.time)] k) := by
    intro k
    rw [Conversation.stored, hfilter]
    exact Assoc.get?_putAll (Assoc.nodup_keys_erase _ e.nodup_keys) _ _
  refine ⟨?_, ?_, ?_, ?_⟩
  · rw [Conversation.stored]
    exact Assoc.nodup_keys_putAll _ (by simp [Assoc.keys])
  · rw [hget, Assoc.get?_erase, if_pos rfl, Entry.givenId?]
    cases e.record.get? "id" with
    | none => simp [Assoc.get?, Json.ifEmpty, Json.isEmpty]
    | some v => cases hv : v.isEmpty <;> simp [Assoc.get?, Json.ifEmpty, Option.filter, hv]
  · rw [hget, Assoc.get?_erase, if_neg (by decide)]
    cases e.record.get? "created_at" <;> simp [Assoc.get?]
  · intro k hid hcreated
    rw [hget, Assoc.get?_erase, if_neg (Ne.symm hid)]
    simp [Assoc.get?, Ne.symm hid, Ne.symm hcreated]

namespace AreKeptAs

variable {es : List Entry} {ms : List Record}

theorem length_eq (h : AreKeptAs es ms) : ms.length = es.length := by
  rw [← List.Forall₂.length_eq h, List.length_zipIdx]

theorem concat (h : AreKeptAs es ms) {e : Entry} {m : Record} (hm : e.IsKeptAs ms.length m) :
    AreKeptAs (es ++ [e]) (ms ++ [m]) := by
  rw [AreKeptAs, List.zipIdx_append]
  refine List.rel_append h (List.Forall₂.cons ?_ List.Forall₂.nil)
  rw [h.length_eq] at hm
  simpa using hm

/-- The ids that the store makes up for the messages of a conversation are all different. -/
theorem ids_differ (h : AreKeptAs es ms) :
    (es.zip ms).Pairwise fun a b => a.1.givenId? = none → b.1.givenId? = none →
      a.2.get? "id" ≠ b.2.get? "id" := by
  have hid : ∀ i (hi : i < (es.zip ms).length), (es.zip ms)[i].1.givenId? = none →
      (es.zip ms)[i].2.get? "id" = some (.str ("msg_" ++ toString i)) := by
    intro i hi hnone
    have hes : i < es.zipIdx.length := by simp at hi ⊢; omega
    have hms : i < ms.length := by simp at hi; omega
    have := (List.forall₂_iff_get.1 h).2 i hes hms
    have := this.id
    simp at hnone
    simpa [hnone] using this
  refine List.pairwise_iff_getElem.2 fun i j hi hj hij hni hnj => ?_
  rw [hid i hi hni, hid j hj hnj]
  intro heq
  have : "msg_" ++ toString i = "msg_" ++ toString j := by
    injection heq with heq
    injection heq
  have := Nat.repr_inj.1 ((String.append_right_inj _).1 this)
  omega

end AreKeptAs

/-! ### Summaries -/

/-- A conversation is the account of the operations on it. -/
structure Sums (c : Conversation) (ops : List Operation) (key : String) : Prop where
  id : c.id = key
  unread : c.unread = unreadCount ops key
  customerName : c.customerName = latestName ops key
  last : ∀ e ∈ (entries ops key).getLast?, c.updatedAt = e.time ∧ c.lastMessage = e.content
  messages : AreKeptAs (entries ops key) c.messages

namespace Sums

variable {c : Conversation} {ops : List Operation} {key : String}

theorem fresh (h : entries ops key = []) (time : String) :
    Sums { id := key, createdAt := time, updatedAt := time } ops key := by
  refine ⟨rfl, (unreadCount_eq_zero ops h).symm, ?_, ?_, ?_⟩
  · rw [latestName, h]; rfl
  · intro e he
    rw [h] at he
    cases he
  · rw [h]
    exact List.Forall₂.nil

theorem of_ne (h : Sums c ops key) {op : Operation} (hop : op.about? ≠ some key) :
    Sums c (ops ++ [op]) key := by
  have hentries : entries (ops ++ [op]) key = entries ops key := entries_concat_of_ne hop
  refine ⟨h.id, ?_, ?_, ?_, ?_⟩
  · rw [unreadCount_concat_of_ne hop]; exact h.unread
  · rw [latestName, hentries]; exact h.customerName
  · rw [hentries]; exact h.last
  · rw [hentries]; exact h.messages

theorem add (h : Sums c ops key) (e : Entry) :
    Sums (c.add e.time e.record e.customerName) (ops ++ [.append key e]) key := by
  have hentry : (Operation.append key e).appended? key = some e := if_pos rfl
  have hentries : entries (ops ++ [.append key e]) key = entries ops key ++ [e] := by
    rw [entries_concat, hentry]; rfl
  refine ⟨h.id, ?_, ?_, ?_, ?_⟩
  · rw [unreadCount_concat, hentry, ← h.unread]
    cases hr : Conversation.isFromCustomer e.record <;> simp [Conversation.add, Operation.reads, hr]
  · have hname : (c.add e.time e.record e.customerName).customerName =
        e.name?.getD c.customerName := rfl
    rw [hname, h.customerName, latestName, latestName, hentries, List.filterMap_append]
    cases hn : e.name? with
    | none => simp [hn]
    | some n => simp [hn]
  · rw [hentries, List.getLast?_concat]
    rintro _ ⟨⟩
    exact ⟨rfl, rfl⟩
  · rw [hentries]
    exact h.messages.concat (isKeptAs_stored c e)

theorem read (h : Sums c ops key) : Sums { c with unread := 0 } (ops ++ [.read key]) key := by
  have hentries : entries (ops ++ [.read key]) key = entries ops key := by
    rw [entries_concat]; exact List.append_nil _
  refine ⟨h.id, ?_, ?_, ?_, ?_⟩
  · rw [unreadCount_concat]
    simp [Operation.reads]
  · rw [latestName, hentries]; exact h.customerName
  · rw [hentries]; exact h.last
  · rw [hentries]; exact h.messages

end Sums

/-- The store tells its history: it has the conversations that something came in for, each the
account of what did, in the order of their first messages. -/
structure Recounts (s : Store) (ops : List Operation) : Prop where
  keys : ∀ key, key ∈ s.conversations.keys ↔ entries ops key ≠ []
  sums : ∀ key c, s.conversations.get? key = some c → Sums c ops key
  order : s.conversations.keys.Pairwise (firstAppend ops · < firstAppend ops ·)

namespace Recounts

variable {s : Store} {ops : List Operation}

theorem nodup_keys (h : Recounts s ops) : s.conversations.keys.Nodup :=
  h.order.imp fun hlt heq => absurd (heq ▸ hlt) (lt_irrefl _)

theorem entries_eq_nil (h : Recounts s ops) {key : String}
    (hnone : s.conversations.get? key = none) : entries ops key = [] := by
  by_contra hne
  exact Assoc.get?_eq_none_iff.1 hnone ((h.keys key).2 hne)

theorem sums_find (h : Recounts s ops) (time key : String) : Sums (s.find time key) ops key := by
  rw [find]
  cases hget : s.conversations.get? key with
  | some c => exact h.sums key c hget
  | none => exact Sums.fresh (h.entries_eq_nil hget) time

/-- What comes later does not change which of the conversations that are there was first. -/
theorem order_concat (h : Recounts s ops) (op : Operation) :
    s.conversations.keys.Pairwise
      (firstAppend (ops ++ [op]) · < firstAppend (ops ++ [op]) ·) := by
  refine h.order.imp_of_mem fun {a b} ha hb hlt => ?_
  rw [firstAppend_concat ops ((h.keys a).1 ha), firstAppend_concat ops ((h.keys b).1 hb)]
  exact hlt

theorem append (h : Recounts s ops) (key : String) (e : Entry) :
    Recounts (s.append e.time key e.record e.customerName) (ops ++ [.append key e]) := by
  have hentry : (Operation.append key e).appended? key = some e := if_pos rfl
  have hother : ∀ k, key ≠ k → (Operation.append key e).about? ≠ some k :=
    fun k hk heq => hk (Option.some.inj heq)
  refine ⟨fun k => ?_, fun k c hget => ?_, ?_⟩
  · rw [Assoc.mem_keys_iff, Store.append, Assoc.get?_put]
    by_cases hk : key = k
    · subst hk
      simp [entries_concat, hentry]
    · rw [if_neg hk, ← Assoc.mem_keys_iff, entries_concat_of_ne (hother k hk)]
      exact h.keys k
  · rw [Store.append, Assoc.get?_put] at hget
    by_cases hk : key = k
    · subst hk
      rw [if_pos rfl] at hget
      cases hget
      exact (h.sums_find e.time key).add e
    · rw [if_neg hk] at hget
      exact (h.sums k c hget).of_ne (hother k hk)
  · rw [Store.append, Assoc.keys_put]
    split
    · exact h.order_concat _
    · rename_i hk
      have hnil : entries ops key = [] := by
        by_contra hne
        exact hk ((h.keys key).2 hne)
      refine List.pairwise_append.2 ⟨h.order_concat _, List.pairwise_singleton _ _, ?_⟩
      intro a ha b hb
      have ha' := (h.keys a).1 ha
      rw [List.mem_singleton.1 hb, firstAppend_concat ops ha',
        firstAppend_concat_new ops hnil (by rw [hentry]; rfl)]
      exact firstAppend_lt ops ha'

theorem of_quiet (h : Recounts s ops) {op : Operation} (hop : op.about? = none) :
    Recounts s (ops ++ [op]) := by
  have hother : ∀ k, op.about? ≠ some k := by
    intro k
    rw [hop]
    exact nofun
  refine ⟨fun k => ?_, fun k c hget => (h.sums k c hget).of_ne (hother k), h.order_concat op⟩
  rw [entries_concat_of_ne (hother k)]
  exact h.keys k

theorem read (h : Recounts s ops) (key : String) :
    Recounts (s.read key).2 (ops ++ [.read key]) := by
  have hother : ∀ k, key ≠ k → (Operation.read key).about? ≠ some k :=
    fun k hk heq => hk (Option.some.inj heq)
  have hentries : ∀ k, entries (ops ++ [.read key]) k = entries ops k := by
    intro k
    rw [entries_concat]
    exact List.append_nil _
  rw [Store.read]
  cases hget : s.conversations.get? key with
  | none =>
    refine ⟨fun k => by rw [hentries]; exact h.keys k, fun k c hk => ?_, h.order_concat _⟩
    refine (h.sums k c hk).of_ne (hother k ?_)
    rintro rfl
    cases hget.symm.trans hk
  | some c =>
    have hkeys : (s.conversations.put key { c with unread := 0 }).keys = s.conversations.keys := by
      rw [Assoc.keys_put, if_pos]
      rw [Assoc.mem_keys_iff, hget]; rfl
    refine ⟨fun k => ?_, fun k c' hk => ?_, ?_⟩
    · rw [hentries]
      show k ∈ (s.conversations.put key _).keys ↔ _
      rw [hkeys]
      exact h.keys k
    · rw [Assoc.get?_put] at hk
      by_cases hkey : key = k
      · subst hkey
        rw [if_pos rfl] at hk
        cases hk
        exact (h.sums key c hget).read
      · rw [if_neg hkey] at hk
        exact (h.sums k c' hk).of_ne (hother k hkey)
    · show (s.conversations.put key _).keys.Pairwise _
      rw [hkeys]
      exact h.order_concat _

theorem perform (h : Recounts s ops) (op : Operation) :
    Recounts (op.perform s) (ops ++ [op]) := by
  cases op with
  | append key e => exact h.append key e
  | list => exact h.of_quiet rfl
  | read key => exact h.read key

end Recounts

theorem recounts_after (ops : List Operation) : Recounts (after ops) ops := by
  induction ops using List.reverseRecOn with
  | nil => exact ⟨by simp [after, Assoc.keys, entries], nofun, List.Pairwise.nil⟩
  | append_singleton ops op ih =>
    rw [after_concat]
    exact ih.perform op

end Store

end ChatFlow
