import ChatFlow.Json.Writer
import ChatFlow.Log
import ChatFlow.Workflow.Node

/-!
# Workflows

A workflow is a tree of nodes with an index from ids to nodes. The index holds nodes of the tree
only (`Workflow.mem_of_index`), so a step that is looked up is a step of the workflow.
`Workflow.index?` builds it on a walk through the tree: strictly, refusing an id that comes twice, or leniently,
where the later node takes the place of the earlier one.
-/

namespace ChatFlow

structure Workflow where
  root : Node
  index : Assoc Node
  name : String
  mem_of_index : ∀ {id : String} {n : Node}, index.get? id = some n → n ∈ root.preorder

namespace Workflow

def duplicateMessage (id : String) (first second : NodeKind) : String :=
  "Duplicate step id " ++ Text.quoted id ++ " (" ++ first.name ++ " and " ++ second.name ++ ")"

/-- Index nodes on top of an index, with an entry for each node that replaces another one. -/
def indexOnto (strict : Bool) (index : Assoc Node) :
    List Node → Except Fault (Assoc Node × List Log.Entry)
  | [] => .ok (index, [])
  | n :: ns => match n.id with
    | none => indexOnto strict index ns
    | some id => match index.get? id with
      | none => indexOnto strict (index.put id n) ns
      | some m =>
        if strict then .error (.unloadable (duplicateMessage id m.kind n.kind))
        else match indexOnto strict (index.put id n) ns with
          | .error f => .error f
          | .ok (ix, log) =>
            .ok (ix, .plain .workflow .warning
              ("Duplicate step id " ++ Text.quoted id ++ ", keeping the later node") :: log)

/-- What is found after a node is written is that node or what was found before. -/
theorem found_before_or_mem {index : Assoc Node} {id k : String} {n m : Node} {ms : List Node}
    (hk : m.id = some k)
    (h : (index.put k m).get? id = some n ∨ n ∈ ms ∧ n.id = some id) :
    index.get? id = some n ∨ n ∈ m :: ms ∧ n.id = some id := by
  rcases h with h | ⟨h, hid⟩
  · rw [Assoc.get?_put] at h
    by_cases hkid : k = id
    · rw [if_pos hkid] at h
      cases h
      exact Or.inr ⟨List.mem_cons_self, hkid ▸ hk⟩
    · rw [if_neg hkid] at h; exact Or.inl h
  · exact Or.inr ⟨List.mem_cons_of_mem _ h, hid⟩

/-- An indexed node is one of the nodes, under its own id. -/
theorem get?_indexOnto {strict : Bool} {ns : List Node} {index ix : Assoc Node}
    {log : List Log.Entry} (h : indexOnto strict index ns = .ok (ix, log)) {id : String} {n : Node}
    (hn : ix.get? id = some n) : index.get? id = some n ∨ n ∈ ns ∧ n.id = some id := by
  induction ns generalizing index log with
  | nil => simp only [indexOnto, Except.ok.injEq, Prod.mk.injEq] at h; exact Or.inl (h.1 ▸ hn)
  | cons m ms ih =>
    rw [indexOnto] at h
    split at h
    · rcases ih h with h | ⟨h, hid⟩
      · exact Or.inl h
      · exact Or.inr ⟨List.mem_cons_of_mem _ h, hid⟩
    · rename_i k hk
      split at h
      · exact found_before_or_mem hk (ih h)
      · split at h
        · cases h
        · split at h
          · cases h
          · rename_i heq
            cases h
            exact found_before_or_mem hk (ih heq)

def index? (root : Node) (strict : Bool) : Except Fault (Assoc Node × List Log.Entry) :=
  indexOnto strict [] root.nodes

theorem mem_of_get?_index? {root : Node} {strict : Bool} {ix : Assoc Node} {log : List Log.Entry}
    (h : index? root strict = .ok (ix, log)) {id : String} {n : Node}
    (hn : ix.get? id = some n) : n ∈ root.preorder := by
  rw [← Node.nodes_eq_preorder]
  rcases get?_indexOnto h hn with h | h
  · cases h
  · exact h.1

/-- The first step; the root only holds the others. -/
def entry? (w : Workflow) : Option Node := w.root.firstChild?

def lookup? (w : Workflow) : Option String → Option Node
  | some id => w.index.get? id
  | none => none

theorem mem_of_lookup? {w : Workflow} {id : Option String} {n : Node} (h : w.lookup? id = some n) :
    n ∈ w.root.preorder := by
  cases id with
  | none => cases h
  | some id => exact w.mem_of_index h

def question? (w : Workflow) (id : Option String) : Option Node :=
  (w.lookup? id).filter (·.kind = .question)

theorem question?_eq_some_iff {w : Workflow} {id : Option String} {n : Node} :
    w.question? id = some n ↔ w.lookup? id = some n ∧ n.kind = .question := by
  simp [question?, Option.filter_eq_some_iff]

theorem mem_of_question? {w : Workflow} {id : Option String} {n : Node}
    (h : w.question? id = some n) : n ∈ w.root.preorder :=
  mem_of_lookup? (question?_eq_some_iff.1 h).1

theorem mem_of_entry? {w : Workflow} {n : Node} (h : w.entry? = some n) : n ∈ w.root.preorder :=
  Node.mem_preorder_of_child (Node.mem_children_of_firstChild? h) n.mem_preorder_self

end Workflow

end ChatFlow
