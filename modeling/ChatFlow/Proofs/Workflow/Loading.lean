import ChatFlow.Proofs.Workflow.Grammar
import ChatFlow.Proofs.Workflow.Index

/-!
# What is loaded

A definition is loaded if its tree depicts one, up to ids that come twice where these are not
allowed (`ofDefinition_of_depicts`), and otherwise its faults are reported, all of them and in their
order (`ofDefinition_of_faulty`). `loading_is_exact` says both of every definition.
-/

namespace ChatFlow

open Schema

namespace Json

/-- The part of a definition that is to depict a tree. -/
def tree (definition : Json) : Json := (definition.field? "tree").getD definition

theorem exists_depicts_iff {v : Json} : (∃ n, v.Depicts n) ↔ ¬ ∃ issue, v.HasFault issue := by
  constructor
  · rintro ⟨n, hn⟩ ⟨issue, hissue⟩
    rw [← Node.mem_issues_decode, Node.decode_eq_ok_iff.2 hn] at hissue
    cases hissue
  · intro h
    cases hv : Node.decode v with
    | ok n => exact ⟨n, Node.decode_eq_ok_iff.1 hv⟩
    | bad i is =>
      refine absurd ⟨i, Node.mem_issues_decode.1 ?_⟩ h
      rw [hv]
      exact List.mem_cons_self

theorem HasFault.decode_eq_bad {v : Json} {issue : Issue} (h : v.HasFault issue) :
    ∃ i is, Node.decode v = .bad i is := by
  cases hv : Node.decode v with
  | ok n => exact absurd ⟨issue, h⟩ (exists_depicts_iff.1 ⟨n, Node.decode_eq_ok_iff.1 hv⟩)
  | bad i is => exact ⟨i, is, rfl⟩

end Json

namespace Workflow

variable {definition : Json} {strict : Bool} {name : Option String} {root : Node}

theorem ofDefinition_of_tree {fields : Assoc Json} (h : definition.tree = .obj fields) :
    ofDefinition definition strict name = match Node.decode (.obj fields) with
      | .ok root => ofRoot root strict (nameOf name definition)
      | .bad i is => .error (.malformed (i :: is)) := by
  cases definition with
  | obj outer =>
    have htree : (Assoc.get? outer "tree").getD (.obj outer) = .obj fields := h
    cases hread : Node.decode (.obj fields) with
    | ok root => simp only [ofDefinition, htree, hread]
    | bad i is => simp only [ofDefinition, htree, hread]
  | _ => cases h

theorem ofDefinition_of_not_obj (strict : Bool) (name : Option String)
    (h : ∀ fields, definition.tree ≠ .obj fields) :
    ∃ reason, ofDefinition definition strict name = .error (.unloadable reason) := by
  cases definition with
  | obj outer =>
    have htree : ∀ fields, (Assoc.get? outer "tree").getD (.obj outer) ≠ .obj fields := h
    rw [ofDefinition]
    split
    · rename_i hobj
      exact absurd hobj (htree _)
    · exact ⟨_, rfl⟩
  | _ => exact ⟨_, rfl⟩

theorem ofDefinition_of_depicts (h : definition.tree.Depicts root) :
    ofDefinition definition strict name = ofRoot root strict (nameOf name definition) := by
  generalize ht : definition.tree = tree at h
  have hdecode := Node.decode_eq_ok_iff.2 h
  cases h
  rw [ofDefinition_of_tree ht, hdecode]

theorem ofDefinition_of_faulty (strict : Bool) (name : Option String) {fields : Assoc Json}
    (h : definition.tree = .obj fields) (hfault : ∃ issue, definition.tree.HasFault issue) :
    ∃ issues, ofDefinition definition strict name = .error (.malformed issues) ∧
      InPlaces issues ∧ ∀ issue, issue ∈ issues ↔ definition.tree.HasFault issue := by
  obtain ⟨issue, hissue⟩ := hfault
  obtain ⟨i, is, hbad⟩ := hissue.decode_eq_bad
  have hissues : (Node.decode definition.tree).issues = i :: is := by rw [hbad]; rfl
  refine ⟨i :: is, ?_, ?_, fun issue => ?_⟩
  · rw [ofDefinition_of_tree h, ← h, hbad]
  · rw [← hissues]
    exact Node.inPlaces_decode _
  · rw [← hissues]
    exact Node.mem_issues_decode

theorem exists_ofRoot_lenient (root : Node) (name : String) :
    ∃ w log, ofRoot root false name = .ok (w, log) := by
  obtain ⟨log, hindex⟩ := indexOnto_lenient [] root.nodes
  unfold ofRoot
  split
  · rename_i f h
    cases h.symm.trans hindex
  · exact ⟨_, _, rfl⟩

theorem ofDefinition_of_not_depicts (strict : Bool) (name : Option String)
    (h : ¬ ∃ root, definition.tree.Depicts root) :
    ∃ f, ofDefinition definition strict name = .error f := by
  by_cases hobj : ∃ fields, definition.tree = .obj fields
  · obtain ⟨fields, hobj⟩ := hobj
    obtain ⟨issues, hissues, -⟩ := ofDefinition_of_faulty strict name hobj
      (by rwa [Json.exists_depicts_iff, not_not] at h)
    exact ⟨_, hissues⟩
  · obtain ⟨reason, hreason⟩ := ofDefinition_of_not_obj strict name (not_exists.1 hobj)
    exact ⟨_, hreason⟩

theorem depicts_of_ofDefinition {w : Workflow} {log : List Log.Entry}
    (h : ofDefinition definition strict name = .ok (w, log)) : definition.tree.Depicts w.root := by
  by_cases hdepicts : ∃ root, definition.tree.Depicts root
  · obtain ⟨root, hroot⟩ := hdepicts
    rw [ofDefinition_of_depicts hroot] at h
    rwa [(eq_of_ofRoot h).1]
  · obtain ⟨f, hf⟩ := ofDefinition_of_not_depicts strict name hdepicts
    cases h.symm.trans hf

/-- The loader accepts its grammar, and reports every fault. A definition is checked successfully
exactly if its tree depicts one: then it goes on to the index, which only ids that come twice can
keep from being built, and what is loaded is the tree that is depicted, node for node. If the
tree depicts none, nothing is loaded. If it is an object at least, all its faults are reported
then, each one once, in the order of the places where they stand. -/
theorem loading_is_exact (definition : Json) (strict : Bool) (name : Option String) :
    (∀ root, definition.tree.Depicts root →
      ofDefinition definition strict name = ofRoot root strict (nameOf name definition)) ∧
    ((∃ w log, ofDefinition definition false name = .ok (w, log)) ↔
      ∃ root, definition.tree.Depicts root) ∧
    (∀ w log, ofDefinition definition strict name = .ok (w, log) → definition.tree.Depicts w.root) ∧
    ((¬ ∃ root, definition.tree.Depicts root) →
      (∃ f, ofDefinition definition strict name = .error f) ∧
      ((∃ fields, definition.tree = .obj fields) →
        ∃ issues, ofDefinition definition strict name = .error (.malformed issues) ∧
          InPlaces issues ∧ ∀ issue, issue ∈ issues ↔ definition.tree.HasFault issue)) := by
  refine ⟨fun root => ofDefinition_of_depicts, ⟨?_, ?_⟩, fun w log => depicts_of_ofDefinition,
    fun h => ⟨ofDefinition_of_not_depicts strict name h, ?_⟩⟩
  · rintro ⟨w, log, h⟩
    exact ⟨w.root, depicts_of_ofDefinition h⟩
  · rintro ⟨root, hroot⟩
    rw [ofDefinition_of_depicts hroot]
    exact exists_ofRoot_lenient root _
  · rintro ⟨fields, hobj⟩
    exact ofDefinition_of_faulty strict name hobj (by rwa [Json.exists_depicts_iff, not_not] at h)

end Workflow

end ChatFlow
