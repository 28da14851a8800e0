import ChatFlow.Json.Writer
import ChatFlow.Log
import ChatFlow.Step.Conditions

/-!
# Whether a branch is taken

A predicate compares a variable with a value. Only the operator `equal_to` can fail: a predicate
without an operator holds, and so does one whose operator is not known, which is logged. A guard
holds if it has predicates and all of them hold; it is not read beyond the first that fails.
-/

namespace ChatFlow.Step

namespace Predicate

def equalTo : String := "equal_to"

/-- The value under test; no variable, and one that was never set, count as empty. -/
def subject (p : Predicate) (vars : Assoc String) : String :=
  (p.subjectName?.bind vars.get?).getD ""

def holds (p : Predicate) (vars : Assoc String) : Bool :=
  if p.operator = some equalTo then p.values.text? == some (p.subject vars) else true

/-- What is logged about a predicate that is evaluated. -/
def remarks (p : Predicate) : List Log.Entry :=
  match p.operator with
  | none => []
  | some op =>
    if op = equalTo || op.isEmpty then []
    else [.plain .interpreter .warning
      ("Unknown filter operator " ++ Text.quoted op ++ ", treating as a match")]

end Predicate

namespace Conditions

def hold (c : Conditions) (vars : Assoc String) : Bool :=
  !c.predicates.isEmpty && c.predicates.all (·.holds vars)

/-- The predicates that are evaluated: those up to the first that fails. -/
def evaluated (vars : Assoc String) : List Predicate → List Predicate
  | [] => []
  | p :: ps => if p.holds vars then p :: evaluated vars ps else [p]

def remarks (c : Conditions) (vars : Assoc String) : List Log.Entry :=
  (evaluated vars c.predicates).flatMap Predicate.remarks

end Conditions

end ChatFlow.Step
