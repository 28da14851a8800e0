import ChatFlow.Branching
import ChatFlow.Turn.Question

/-!
# Choosing a branch

The first branch whose guard holds is taken, and a branch without a guard at once. Branches after
it are not even read.
-/

namespace ChatFlow

open Step (Conditions)

/-- The first step of the branch that is taken, and what is logged on the way to it. -/
def chooseBranch (vars : Assoc String) :
    List Node → Except Fault (Option Node) × List Log.Entry
  | [] => (.ok none, [])
  | c :: cs => match c.kind with
    | .ifCondition => match c.read Conditions.decode with
      | .error f => (.error f, [])
      | .ok guard =>
        if guard.hold vars then (.ok c.firstChild?, guard.remarks vars)
        else
          let (result, log) := chooseBranch vars cs
          (result, guard.remarks vars ++ log)
    | .elseCondition => (.ok c.firstChild?, [])
    | _ => chooseBranch vars cs

def Turn.branch {κ : Type} (t : Turn κ) (n : Node) : Progress κ :=
  let (result, log) := chooseBranch t.session.vars n.children
  (result, t.noteAll log)

theorem chooseBranch_next {vars : Assoc String} {cs : List Node} {m : Node}
    (h : (chooseBranch vars cs).1 = .ok (some m)) : ∃ c ∈ cs, c.firstChild? = some m := by
  induction cs with
  | nil => cases h
  | cons c cs ih =>
    have later : (chooseBranch vars cs).1 = .ok (some m) →
        ∃ c' ∈ c :: cs, c'.firstChild? = some m := fun h =>
      let ⟨c', hc', hm⟩ := ih h
      ⟨c', List.mem_cons_of_mem _ hc', hm⟩
    simp only [chooseBranch] at h
    split at h
    · split at h
      · cases h
      · split at h
        · exact ⟨c, List.mem_cons_self, by simpa using h⟩
        · exact later h
    · exact ⟨c, List.mem_cons_self, by simpa using h⟩
    · exact later h

end ChatFlow
