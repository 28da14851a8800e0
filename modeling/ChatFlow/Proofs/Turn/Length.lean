import ChatFlow.Proofs.Turn.Work
import Mathlib.Logic.Function.Iterate

/-!
# How long a run is

A run repeats one pass, which executes the step at hand and finds the next. Jumps lead back up the
tree, so no step by itself is nearer to the end; but between two jumps the steps only go down, and
every jump that goes on uses up some of the budget. The number of passes is bounded by the height
of the tree, once and again for each jump that is left (`run_within_budget`).
-/

namespace ChatFlow.Turn

variable {κ : Type} {o : Outside κ} {w : Workflow} {r : Rules}

/-- Execute the step at hand, if there is one, and find the one that comes next. -/
def pass (o : Outside κ) (w : Workflow) (r : Rules) : Option Node × Turn κ → Option Node × Turn κ
  | (none, t) => (none, t)
  | (some n, t) => match (t.begin n).execute o w r n with
    | (.error f, t') =>
      (none, t'.fail ("Error executing " ++ n.kind.name ++ " (" ++ n.label ++ ")") f)
    | (.ok next, t') => (next, t')

/-- From a step on there are no more passes than it is high, and as many as the whole tree is high
for each jump that is left. -/
theorem exists_iterate_pass_eq_run (t : Turn κ) (n : Node) (hn : n ∈ w.root.preorder) :
    ∃ k ≤ n.height + w.budget r t.session.jumpCounts * w.root.height,
      (pass o w r)^[k] (some n, t) = (none, t.run o w r n hn) ∧
      (t.run o w r n hn).steps.length = t.steps.length + k := by
  fun_induction Turn.run t o w r n hn with
  | case1 t n hn f t' h =>
    have hs := steps_execute_begin t o w r n
    rw [h] at hs
    refine ⟨1, Nat.le_trans n.height_pos (Nat.le_add_right ..), ?_, ?_⟩
    · rw [Function.iterate_one, pass, h]
    · rw [steps_fail, hs]; simp
  | case2 t n hn t' h =>
    have hs := steps_execute_begin t o w r n
    rw [h] at hs
    refine ⟨1, Nat.le_trans n.height_pos (Nat.le_add_right ..), ?_, ?_⟩
    · rw [Function.iterate_one, pass, h]
    · rw [hs]; simp
  | case3 t n hn t' m h ih =>
    have hs := steps_execute_begin t o w r n
    rw [h] at hs
    obtain ⟨k, hk, hpass, hlen⟩ := ih
    obtain ⟨hm, hnext⟩ := execute_next hn h
    refine ⟨k + 1, ?_, ?_, ?_⟩
    · have hH := Node.height_le_of_mem_preorder hm
      have hpos := n.height_pos
      rcases hnext with hlt | ⟨heq, hlt⟩
      · -- A jump was taken: the step may stand anywhere, but there is one jump less.
        have hmul := Nat.mul_le_mul_right w.root.height (Nat.succ_le_of_lt hlt)
        rw [Nat.succ_mul] at hmul
        change _ ≤ w.budget r t.session.jumpCounts * _ at hmul
        omega
      · rw [heq] at hk
        change _ ≤ _ + w.budget r t.session.jumpCounts * _ at hk
        omega
    · rw [Function.iterate_succ_apply, pass, h]; exact hpass
    · rw [hlen, hs, List.length_append, List.length_singleton]; omega

/-- Every run ends: from any step, with any counts and whatever the world outside does, it takes at
most as many steps as the tree is high, once and again for each jump that the budget has left. -/
theorem run_within_budget (o : Outside κ) (w : Workflow) (r : Rules) (t : Turn κ) (n : Node)
    (hn : n ∈ w.root.preorder) :
    ∃ k ≤ (1 + w.budget r t.session.jumpCounts) * w.root.height,
      (pass o w r)^[k] (some n, t) = (none, t.run o w r n hn) ∧
      (t.run o w r n hn).steps.length = t.steps.length + k := by
  obtain ⟨k, hk, h⟩ := exists_iterate_pass_eq_run (o := o) (r := r) t n hn
  refine ⟨k, ?_, h⟩
  rw [Nat.add_mul, Nat.one_mul]
  exact Nat.le_trans hk (Nat.add_le_add_right (Node.height_le_of_mem_preorder hn) _)

/-- A jump back to the root that may be taken twice: the bound is six steps, and six are taken. -/
theorem run_within_budget_looping :
    let back : Node := ⟨some "1", .jump, [("stepId", .str "0"), ("maxJumps", .int 2)], []⟩
    let root : Node := ⟨some "0", .other "Trigger", [], [back]⟩
    let w : Workflow := ⟨root, [("0", root)], "loop", fun h => by
      cases List.mem_singleton.1 (Assoc.mem_of_get? h)
      exact Node.mem_preorder_self _⟩
    let r : Rules := ⟨50, 3, Rules.standardListButton⟩
    let o : Outside Unit := ⟨fun _ _ => (.ok (), [], ()), fun _ _ => (none, ()), fun _ => none⟩
    let t := Turn.start (Session.start (.ofInt 0) "a" "Ada") ()
    (1 + w.budget r t.session.jumpCounts) * w.root.height = 6 ∧
      ((pass o w r)^[6] (some root, t)).2.steps.length = 6 ∧
      ∃ k ≤ 6, (pass o w r)^[k] (some root, t) = (none, t.run o w r root root.mem_preorder_self) ∧
        (t.run o w r root root.mem_preorder_self).steps.length = k := by
  intro back root w r o t
  have hbound : (1 + w.budget r t.session.jumpCounts) * w.root.height = 6 := by decide +kernel
  obtain ⟨k, hk, hpass, hlen⟩ := run_within_budget o w r t root root.mem_preorder_self
  rw [hbound] at hk
  rw [show t.steps.length = 0 from rfl, Nat.zero_add] at hlen
  exact ⟨hbound, by decide +kernel, k, hk, hpass, hlen⟩

end ChatFlow.Turn
