import ChatFlow.Step.Jump
import ChatFlow.Turn.Question

/-!
# Jumping

A jump counts how often it is taken in a session and stops the conversation's steps beyond its
limit. `Workflow.budget` is what all jumps of a workflow have left; taking a jump within its limit
uses up some of it (`Workflow.budget_put_lt`).
-/

namespace ChatFlow

open Step (Jump)

def Session.jumps (s : Session) (key : String) : Int := (s.jumpCounts.get? key).getD 0

/-- How often a node may be taken as a jump, if it is one that can be read. -/
def Node.jumpLimit? (n : Node) (r : Rules) : Option Int :=
  if n.kind = .jump then
    match n.read Jump.decode with
    | .ok j => some (j.limit r.maxJumps)
    | .error _ => none
  else none

namespace Turn

variable {κ : Type}

def jump (t : Turn κ) (w : Workflow) (r : Rules) (n : Node) : Progress κ :=
  match n.read Jump.decode with
  | .error f => (.error f, t)
  | .ok j =>
    let count := t.session.jumps n.label + 1
    let t := t.modify fun s => { s with jumpCounts := s.jumpCounts.put n.label count }
    let limit := j.limit r.maxJumps
    if count > limit then
      (.ok none, t.say .debug ("Jump " ++ n.label ++ " reached its limit of " ++ toString limit))
    else match w.lookup? j.target with
      | some m => (.ok (some m), t)
      | none => (.ok none, t.say .warning
          ("Jump " ++ n.label ++ " targets unknown step " ++ Text.quotedOption j.target))

/-- A jump that goes on was taken within its limit, to a node of the workflow. -/
theorem jump_next {t t' : Turn κ} {w : Workflow} {r : Rules} {n m : Node}
    (hk : n.kind = .jump) (h : t.jump w r n = (.ok (some m), t')) :
    m ∈ w.root.preorder ∧ ∃ limit, n.jumpLimit? r = some limit ∧
      t.session.jumps n.label + 1 ≤ limit ∧
      t'.session.jumpCounts = t.session.jumpCounts.put n.label (t.session.jumps n.label + 1) := by
  simp only [jump] at h
  split at h
  · cases h
  · rename_i j hj
    split at h
    · cases h
    · rename_i hle
      split at h <;> cases h
      rename_i hm
      exact ⟨Workflow.mem_of_lookup? hm, j.limit r.maxJumps, by simp [Node.jumpLimit?, hk, hj],
        by simpa [modify] using hle, rfl⟩

end Turn

/-! ### What the jumps have left -/

namespace Workflow

/-- The jumps of a workflow, with the keys they are counted under and their limits. -/
def jumps (w : Workflow) (r : Rules) : List (String × Int) :=
  w.root.preorder.filterMap fun n => (n.jumpLimit? r).map (n.label, ·)

/-- The limits of the jumps that are counted under a key. -/
def limits (w : Workflow) (r : Rules) (key : String) : List Int :=
  ((w.jumps r).filter (·.1 = key)).map (·.2)

/-- The largest limit of the jumps that are counted under a key. -/
def allowance (w : Workflow) (r : Rules) (key : String) : Int := (w.limits r key).max?.getD 0

/-- How often the jumps of a workflow can still be taken. -/
def budget (w : Workflow) (r : Rules) (counts : Assoc Int) : Nat :=
  ((w.jumps r).map (·.1)).eraseDups.foldr
    (fun key n => (w.allowance r key - (counts.get? key).getD 0).toNat + n) 0

theorem le_allowance {w : Workflow} {r : Rules} {key : String} {limit : Int}
    (h : (key, limit) ∈ w.jumps r) : limit ≤ w.allowance r key := by
  have hmem : limit ∈ w.limits r key :=
    List.mem_map.2 ⟨(key, limit), List.mem_filter.2 ⟨h, by simp⟩, rfl⟩
  rw [allowance]
  cases hmax : (w.limits r key).max? with
  | none => rw [List.max?_eq_none_iff.1 hmax] at hmem; cases hmem
  | some most => exact (List.max?_eq_some_iff.1 hmax).2 limit hmem

theorem mem_jumps {w : Workflow} {r : Rules} {n : Node} {limit : Int} (hn : n ∈ w.root.preorder)
    (h : n.jumpLimit? r = some limit) : (n.label, limit) ∈ w.jumps r :=
  List.mem_filterMap.mpr ⟨n, hn, by simp [h]⟩

/-- A sum gets smaller if one term does and none grows. -/
theorem foldr_add_lt {α : Type} {f g : α → Nat} {xs : List α} {x : α} (hx : x ∈ xs)
    (hlt : f x < g x) (hle : ∀ y ∈ xs, f y ≤ g y) :
    xs.foldr (fun y n => f y + n) 0 < xs.foldr (fun y n => g y + n) 0 := by
  have le : ∀ ys : List α, (∀ y ∈ ys, f y ≤ g y) →
      ys.foldr (fun y n => f y + n) 0 ≤ ys.foldr (fun y n => g y + n) 0 := by
    intro ys
    induction ys with
    | nil => intro _; exact Nat.le_refl _
    | cons y ys ih =>
      intro h
      exact Nat.add_le_add (h y List.mem_cons_self) (ih fun z hz => h z (List.mem_cons_of_mem _ hz))
  induction xs with
  | nil => cases hx
  | cons y ys ih =>
    rcases List.mem_cons.mp hx with rfl | hx
    · exact Nat.add_lt_add_of_lt_of_le hlt (le ys fun z hz => hle z (List.mem_cons_of_mem _ hz))
    · exact Nat.add_lt_add_of_le_of_lt (hle y List.mem_cons_self)
        (ih hx fun z hz => hle z (List.mem_cons_of_mem _ hz))

/-- Taking a jump within its limit uses up some of the budget. -/
theorem budget_put_lt {w : Workflow} {r : Rules} {counts : Assoc Int} {key : String} {limit : Int}
    (hj : (key, limit) ∈ w.jumps r) (hle : (counts.get? key).getD 0 + 1 ≤ limit) :
    w.budget r (counts.put key ((counts.get? key).getD 0 + 1)) < w.budget r counts := by
  have hlimit : limit ≤ w.allowance r key := le_allowance hj
  refine foldr_add_lt (x := key) ?_ ?_ ?_
  · rw [List.mem_eraseDups]; exact List.mem_map.mpr ⟨_, hj, rfl⟩
  · rw [Assoc.get?_put_self]; simp only [Option.getD_some]; omega
  · intro k _
    by_cases hk : key = k
    · subst hk; rw [Assoc.get?_put_self]; simp only [Option.getD_some]; omega
    · exact Nat.le_of_eq (by rw [Assoc.get?_put_of_ne _ _ hk])

end Workflow

end ChatFlow
