import ChatFlow.Proofs.Workflow.Grammar
import ChatFlow.Proofs.Workflow.Places
import ChatFlow.Workflow.Definition
import Mathlib.Data.List.Induction
import Mathlib.Data.List.Nodup
import Mathlib.Data.List.Pairwise

/-!
# The index of a workflow

Leniently built, an index has the entries of all nodes with an id, written one after the other
(`indexOnto_lenient`); strictly built, it has them too, unless an id comes twice, and then the first
node that repeats an id is named (`index?_eq_error_iff`). So the index of a tree is exact
(`index_is_exact`), and looking up the id of a node finds that node (`lookup?_of_mem`).
-/

namespace ChatFlow

namespace Assoc

variable {α : Type} {m : Assoc α}

theorem keys_putAll (entries : Assoc α) (h : (keys m).eraseDups = keys m) :
    keys (putAll m entries) = (keys m ++ keys entries).eraseDups := by
  induction entries generalizing m with
  | nil => exact (h.symm.trans (by rw [keys, keys, List.map_nil, List.append_nil]))
  | cons e entries ih =>
    have hcons : putAll m (e :: entries) = putAll (put m e.1 e.2) entries := rfl
    have hkeys : keys (e :: entries) = e.1 :: keys entries := rfl
    have hput := keys_put m e.1 e.2
    by_cases hmem : e.1 ∈ keys m
    · rw [if_pos hmem] at hput
      have hfilter : (e.1 :: keys entries).removeAll (keys m) =
          (keys entries).removeAll (keys m) := by
        simp [List.removeAll, hmem]
      rw [hcons, ih (by rw [hput, h]), hput, hkeys, List.eraseDups_append, List.eraseDups_append,
        hfilter]
    · rw [if_neg hmem] at hput
      have hself : (keys (put m e.1 e.2)).eraseDups = keys (put m e.1 e.2) := by
        rw [hput, List.eraseDups_append, h]
        simp [List.removeAll, hmem, List.eraseDups_cons]
      rw [hcons, ih hself, hput, hkeys, List.append_assoc, List.singleton_append]

theorem get?_putAll_eq_getLast? (m entries : Assoc α) (k : String) : get? (putAll m entries) k =
    ((entries.filter (·.1 = k)).getLast?.map (·.2)).or (get? m k) := by
  induction entries generalizing m with
  | nil => rfl
  | cons e entries ih =>
    have hcons : putAll m (e :: entries) = putAll (put m e.1 e.2) entries := rfl
    rw [hcons, ih, get?_put]
    by_cases hk : e.1 = k
    · rw [List.filter_cons_of_pos (by simpa using hk), List.getLast?_cons, if_pos hk]
      cases (entries.filter (·.1 = k)).getLast? <;> rfl
    · rw [List.filter_cons_of_neg (by simpa using hk), if_neg hk]

end Assoc

namespace Node

variable {ns : List Node} {n : Node} {id : String}

/-- The ids of nodes, in their order. -/
def ids (ns : List Node) : List String := ns.filterMap Node.id

/-- The entries that nodes have in an index. -/
def entries (ns : List Node) : Assoc Node := ns.filterMap fun n => n.id.map (·, n)

theorem entries_cons_of_none (h : n.id = none) : entries (n :: ns) = entries ns := by
  simp [entries, h]

theorem entries_cons_of_some (h : n.id = some id) : entries (n :: ns) = (id, n) :: entries ns := by
  simp [entries, h]

theorem ids_cons_of_none (h : n.id = none) : ids (n :: ns) = ids ns := by
  simp [ids, h]

theorem ids_cons_of_some (h : n.id = some id) : ids (n :: ns) = id :: ids ns := by
  simp [ids, h]

theorem keys_entries (ns : List Node) : Assoc.keys (entries ns) = ids ns := by
  rw [Assoc.keys, entries, ids, List.map_filterMap]
  refine List.filterMap_congr fun n _ => ?_
  cases n.id <;> rfl

theorem mem_entries : (id, n) ∈ entries ns ↔ n ∈ ns ∧ n.id = some id := by
  simp [entries, and_comm]

theorem getLast?_entries (ns : List Node) (id : String) :
    ((entries ns).filter (·.1 = id)).getLast?.map (·.2) =
      (ns.filter (·.id = some id)).getLast? := by
  induction ns with
  | nil => rfl
  | cons n ns ih =>
    by_cases hn : n.id = some id
    · rw [entries_cons_of_some hn, List.filter_cons_of_pos (by simp),
        List.filter_cons_of_pos (by simpa using hn), List.getLast?_cons, List.getLast?_cons, ← ih]
      cases ((entries ns).filter (·.1 = id)).getLast? <;> rfl
    · rw [List.filter_cons_of_neg (p := fun n : Node => decide (n.id = some id))
        (by simpa using hn), ← ih]
      cases hid : n.id with
      | none => rw [entries_cons_of_none hid]
      | some k =>
        have hk : k ≠ id := fun h => hn (h ▸ hid)
        rw [entries_cons_of_some hid, List.filter_cons_of_neg (by simpa using hk)]

/-- The first of some nodes that repeats an id, and the one before it that has the id, too. -/
def FirstRepeat (ns : List Node) (earlier later : Node) (id : String) : Prop :=
  ∃ seen rest, ns = seen ++ later :: rest ∧ (ids seen).Nodup ∧
    earlier ∈ seen ∧ earlier.id = some id ∧ later.id = some id

theorem ids_append (ns ms : List Node) : ids (ns ++ ms) = ids ns ++ ids ms := List.filterMap_append

theorem mem_ids : id ∈ ids ns ↔ ∃ n ∈ ns, n.id = some id := List.mem_filterMap

/-- If an id comes twice, some node is the first one to repeat an id. -/
theorem nodup_or_firstRepeat (ns : List Node) :
    (ids ns).Nodup ∨ ∃ earlier later id, FirstRepeat ns earlier later id := by
  induction ns using List.reverseRecOn with
  | nil => exact .inl List.nodup_nil
  | append_singleton ns n ih =>
    rcases ih with h | ⟨earlier, later, id, seen, rest, rfl, hrest⟩
    · by_cases hn : ∃ id ∈ ids ns, n.id = some id
      · obtain ⟨id, hid, hn⟩ := hn
        obtain ⟨m, hm, hmid⟩ := mem_ids.1 hid
        exact .inr ⟨m, n, id, ns, [], rfl, h, hm, hmid, hn⟩
      · refine .inl ?_
        rw [ids_append, List.nodup_append]
        refine ⟨h, ?_, fun id hid id' hid' heq => hn ⟨id, hid, ?_⟩⟩
        · cases hid : n.id <;> simp [ids, hid]
        · obtain ⟨m, hm, hmid⟩ := mem_ids.1 hid'
          rw [heq, ← List.mem_singleton.1 hm, hmid]
    · exact .inr ⟨earlier, later, id, seen, rest ++ [n], by simp, hrest⟩

theorem not_nodup_ids_iff (root : Node) : ¬ (ids root.nodes).Nodup ↔
    ∃ p q m n id, p ≠ q ∧ root.at? p = some m ∧ root.at? q = some n ∧
      m.id = some id ∧ n.id = some id := by
  obtain ⟨places, hlt, hmem, hnodes⟩ := exists_places root
  have hids : ids root.nodes = places.filterMap fun p => (root.at? p).bind Node.id := by
    have h : (root.nodes.map some).filterMap (·.bind Node.id) = ids root.nodes := by
      rw [List.filterMap_map]; rfl
    rw [← h, hnodes, List.filterMap_map]; rfl
  rw [hids, List.Nodup, List.pairwise_filterMap]
  constructor
  · intro hrepeat
    by_contra hno
    have hnodup : places.Nodup := hlt.imp fun {p q} h => by
      rintro rfl
      exact List.lt_irrefl p h
    refine hrepeat (hnodup.pairwise_of_forall_ne fun p _ q _ hpq id hp id' hq heq => ?_)
    subst heq
    obtain ⟨m, hm, hmid⟩ := Option.bind_eq_some_iff.1 hp
    obtain ⟨n, hn, hnid⟩ := Option.bind_eq_some_iff.1 hq
    exact hno ⟨p, q, m, n, id, hpq, hm, hn, hmid, hnid⟩
  · rintro ⟨p, q, m, n, id, hpq, hm, hn, hmid, hnid⟩ hall
    have hsymm : Std.Symm fun p q => ∀ id, (root.at? p).bind Node.id = some id →
        ∀ id', (root.at? q).bind Node.id = some id' → id ≠ id' :=
      ⟨fun p q h id hp id' hq => (h id' hq id hp).symm⟩
    exact hall.forall ((hmem p).2 (by rw [hm]; rfl)) ((hmem q).2 (by rw [hn]; rfl)) hpq
      id (by rw [hm]; exact hmid) id (by rw [hn]; exact hnid) rfl

end Node

namespace Workflow

open Node (entries ids FirstRepeat)

variable {ns seen : List Node} {index ix : Assoc Node} {log : List Log.Entry} {f : Fault}

/-! ### Indexing -/

theorem indexOnto_cons_of_none {n : Node} (strict : Bool) (h : n.id = none) :
    indexOnto strict index (n :: ns) = indexOnto strict index ns := by
  simp only [indexOnto, h]

theorem indexOnto_cons_of_new {n : Node} {id : String} (strict : Bool) (h : n.id = some id)
    (hnew : index.get? id = none) :
    indexOnto strict index (n :: ns) = indexOnto strict (index.put id n) ns := by
  simp only [indexOnto, h, hnew]

theorem indexOnto_cons_of_known {n m : Node} {id : String} (h : n.id = some id)
    (hknown : index.get? id = some m) : indexOnto true index (n :: ns) =
      .error (.unloadable (duplicateMessage id m.kind n.kind)) := by
  simp only [indexOnto, h, hknown, if_pos]

theorem indexOnto_lenient (index : Assoc Node) (ns : List Node) :
    ∃ log, indexOnto false index ns = .ok (index.putAll (entries ns), log) := by
  induction ns generalizing index with
  | nil => exact ⟨[], rfl⟩
  | cons n ns ih =>
    cases hid : n.id with
    | none =>
      rw [indexOnto_cons_of_none _ hid, Node.entries_cons_of_none hid]
      exact ih index
    | some id =>
      obtain ⟨log, h⟩ := ih (index.put id n)
      rw [Node.entries_cons_of_some hid]
      cases hm : index.get? id with
      | none => exact ⟨log, (indexOnto_cons_of_new _ hid hm).trans h⟩
      | some m =>
        simp only [indexOnto, hid, hm, h, Bool.false_eq_true, if_false]
        exact ⟨_, rfl⟩

/-- Strict indexing goes over nodes with new ids and appends their entries. -/
theorem indexOnto_strict_append (h : (index.keys ++ ids seen).Nodup) (ns : List Node) :
    indexOnto true index (seen ++ ns) = indexOnto true (index ++ entries seen) ns := by
  induction seen generalizing index with
  | nil => rw [List.nil_append, entries, List.filterMap_nil, List.append_nil]
  | cons n seen ih =>
    rw [List.cons_append]
    cases hid : n.id with
    | none =>
      rw [indexOnto_cons_of_none _ hid, Node.entries_cons_of_none hid]
      refine ih ?_
      rwa [Node.ids_cons_of_none hid] at h
    | some id =>
      rw [Node.ids_cons_of_some hid] at h
      have hnew : id ∉ index.keys := fun hmem =>
        (List.nodup_append.1 h).2.2 id hmem id List.mem_cons_self rfl
      have hput : index.put id n = index ++ [(id, n)] := Assoc.put_of_not_mem hnew
      rw [indexOnto_cons_of_new _ hid (Assoc.get?_eq_none_iff.2 hnew),
        Node.entries_cons_of_some hid, ih, hput, List.append_assoc, List.singleton_append]
      rw [hput, Assoc.keys, List.map_append, List.append_assoc]
      exact h

variable {root : Node}

theorem index?_of_nodup (h : (ids root.nodes).Nodup) :
    index? root true = .ok (entries root.nodes, []) := by
  have hnew : (Assoc.keys ([] : Assoc Node) ++ ids root.nodes).Nodup := h
  have happend := indexOnto_strict_append hnew []
  rwa [List.append_nil, List.nil_append] at happend

theorem index?_of_firstRepeat {earlier later : Node} {id : String}
    (h : FirstRepeat root.nodes earlier later id) :
    index? root true = .error (.unloadable (duplicateMessage id earlier.kind later.kind)) := by
  obtain ⟨seen, rest, hnodes, hnodup, hmem, hid, hid'⟩ := h
  have hknown : Assoc.get? (entries seen) id = some earlier :=
    Assoc.get?_of_mem (by rwa [Node.keys_entries]) (Node.mem_entries.2 ⟨hmem, hid⟩)
  have hnew : (Assoc.keys ([] : Assoc Node) ++ ids seen).Nodup := hnodup
  rw [index?, hnodes, indexOnto_strict_append hnew, List.nil_append]
  exact indexOnto_cons_of_known hid' hknown

/-- Strict indexing fails with the first node that repeats an id. -/
theorem index?_eq_error_iff : index? root true = .error f ↔ ∃ earlier later id,
    FirstRepeat root.nodes earlier later id ∧
      f = .unloadable (duplicateMessage id earlier.kind later.kind) := by
  constructor
  · intro h
    rcases Node.nodup_or_firstRepeat root.nodes with hnodup | ⟨earlier, later, id, hrepeat⟩
    · rw [index?_of_nodup hnodup] at h; cases h
    · rw [index?_of_firstRepeat hrepeat] at h; cases h
      exact ⟨earlier, later, id, hrepeat, rfl⟩
  · rintro ⟨earlier, later, id, hrepeat, rfl⟩
    exact index?_of_firstRepeat hrepeat

theorem exists_index?_eq_error_iff :
    (∃ f, index? root true = .error f) ↔ ¬ (ids root.nodes).Nodup := by
  constructor
  · rintro ⟨f, h⟩ hnodup
    rw [index?_of_nodup hnodup] at h; cases h
  · intro h
    rcases Node.nodup_or_firstRepeat root.nodes with hnodup | ⟨earlier, later, id, hrepeat⟩
    · exact absurd hnodup h
    · exact ⟨_, index?_of_firstRepeat hrepeat⟩

theorem index?_eq_ok_iff : index? root true = .ok (ix, log) ↔
    (ids root.nodes).Nodup ∧ ix = entries root.nodes ∧ log = [] := by
  constructor
  · intro h
    have hnodup : (ids root.nodes).Nodup := by
      by_contra hno
      obtain ⟨f, hf⟩ := exists_index?_eq_error_iff.2 hno
      rw [hf] at h; cases h
    rw [index?_of_nodup hnodup] at h; cases h
    exact ⟨hnodup, rfl, rfl⟩
  · rintro ⟨hnodup, rfl, rfl⟩
    exact index?_of_nodup hnodup

theorem get?_entries (h : (ids ns).Nodup) {n : Node} (hn : n ∈ ns) {id : String}
    (hid : n.id = some id) : Assoc.get? (entries ns) id = some n :=
  Assoc.get?_of_mem (by rwa [Node.keys_entries]) (Node.mem_entries.2 ⟨hn, hid⟩)

/-- What strict and lenient indexing give, if they give an index. -/
theorem eq_putAll_of_index? {strict : Bool} (h : index? root strict = .ok (ix, log)) :
    ix = Assoc.putAll [] (entries root.nodes) := by
  cases strict with
  | true =>
    obtain ⟨hnodup, rfl, -⟩ := index?_eq_ok_iff.1 h
    have hkeys : (Assoc.keys (entries root.nodes)).Nodup := by rwa [Node.keys_entries]
    exact (Assoc.putAll_of_nodup (m := []) hkeys).symm
  | false =>
    obtain ⟨log', hlenient⟩ := indexOnto_lenient [] root.nodes
    cases h.symm.trans hlenient
    rfl

/-- An index leads from an id to the last node that has it. -/
theorem get?_index? {strict : Bool} (h : index? root strict = .ok (ix, log)) (id : String) :
    Assoc.get? ix id = (root.nodes.filter (·.id = some id)).getLast? := by
  rw [eq_putAll_of_index? h, Assoc.get?_putAll_eq_getLast?, Node.getLast?_entries, Assoc.get?_nil,
    Option.or_none]

theorem eq_of_ofRoot {strict : Bool} {name : String} {w : Workflow}
    (h : ofRoot root strict name = .ok (w, log)) : w.root = root ∧
      ∃ log', index? root strict = .ok (w.index, log') ∧ log = log' ++ w.report := by
  unfold ofRoot at h
  split at h
  · cases h
  · rename_i hix
    cases h
    exact ⟨rfl, _, hix, rfl⟩

theorem index?_of_ofDefinition {definition : Json} {strict : Bool} {name : Option String}
    {w : Workflow} (h : ofDefinition definition strict name = .ok (w, log)) :
    ∃ log', index? w.root strict = .ok (w.index, log') ∧ log = log' ++ w.report := by
  unfold ofDefinition at h
  split at h
  · split at h
    · split at h
      · obtain ⟨hroot, hindex⟩ := eq_of_ofRoot h
        rwa [hroot]
      · cases h
    · cases h
  · cases h

/-- The index of a tree is exact. A walk comes to every place of the tree once, in preorder. A tree
that is read from a value has the ids that the value depicts, integers written out. Strict indexing
fails exactly if the nodes at two places have the same id: then it names the first node on the walk
that repeats an id, and the one before it. Otherwise the index has the ids in their order, and each
node is found under its id. Lenient indexing does not fail: it gives the same index if the strict one
does not fail either, and always leads from an id to the last node that has it, in the order of the
first ones. -/
theorem index_is_exact (root : Node) :
    (root.nodes = root.preorder ∧ ∃ places : List (List Nat), places.Pairwise (· < ·) ∧
      (∀ p, p ∈ places ↔ (root.at? p).isSome) ∧ root.nodes.map some = places.map root.at?) ∧
    (∀ v, Node.decode v = .ok root → v.Depicts root) ∧
    ((∃ f, index? root true = .error f) ↔ ∃ p q m n id, p ≠ q ∧ root.at? p = some m ∧
      root.at? q = some n ∧ m.id = some id ∧ n.id = some id) ∧
    (∀ f, index? root true = .error f ↔ ∃ earlier later id,
      FirstRepeat root.nodes earlier later id ∧
        f = .unloadable (duplicateMessage id earlier.kind later.kind)) ∧
    (∀ ix log, index? root true = .ok (ix, log) → Assoc.keys ix = ids root.nodes ∧
      ∀ w : Workflow, w.index = ix → ∀ n ∈ root.nodes, n.id.isSome → w.lookup? n.id = some n) ∧
    ∃ ix log, index? root false = .ok (ix, log) ∧ Assoc.keys ix = (ids root.nodes).eraseDups ∧
      (∀ id, Assoc.get? ix id = (root.nodes.filter (·.id = some id)).getLast?) ∧
      ∀ ix' log', index? root true = .ok (ix', log') → ix' = ix := by
  refine ⟨⟨root.nodes_eq_preorder, root.exists_places⟩, fun v => Node.decode_eq_ok_iff.1, ?_,
    fun f => index?_eq_error_iff, fun ix log h => ?_, ?_⟩
  · rw [exists_index?_eq_error_iff, Node.not_nodup_ids_iff]
  · obtain ⟨hnodup, rfl, -⟩ := index?_eq_ok_iff.1 h
    refine ⟨Node.keys_entries _, fun w hw n hn hid => ?_⟩
    obtain ⟨id, hid⟩ := Option.isSome_iff_exists.1 hid
    rw [hid, lookup?, hw]
    exact get?_entries hnodup hn hid
  · obtain ⟨log, h⟩ := indexOnto_lenient [] root.nodes
    refine ⟨_, log, h, ?_, get?_index? h, fun ix' log' => eq_putAll_of_index?⟩
    rw [Assoc.keys_putAll _ rfl, Node.keys_entries]
    rfl

theorem lookup?_eq_none_iff {definition : Json} {strict : Bool} {name : Option String}
    {w : Workflow} {log : List Log.Entry} (h : ofDefinition definition strict name = .ok (w, log)) {id : String} :
    w.lookup? (some id) = none ↔ ∀ n ∈ w.root.nodes, n.id ≠ some id := by
  obtain ⟨log', hix, -⟩ := index?_of_ofDefinition h
  rw [lookup?, get?_index? hix, List.getLast?_eq_none_iff, List.filter_eq_nil_iff]
  simp only [decide_eq_true_eq]

theorem lookup?_of_mem {definition : Json} {name : Option String} {w : Workflow}
    {log : List Log.Entry} (h : ofDefinition definition true name = .ok (w, log)) {n : Node}
    (hn : n ∈ w.root.preorder) {id : String} (hid : n.id = some id) :
    w.lookup? (some id) = some n := by
  obtain ⟨log', hix, -⟩ := index?_of_ofDefinition h
  obtain ⟨hnodup, hentries, -⟩ := index?_eq_ok_iff.1 hix
  rw [lookup?, hentries]
  exact get?_entries hnodup (by rwa [Node.nodes_eq_preorder]) hid

end Workflow

end ChatFlow
