import ChatFlow.Schema.Number
import ChatFlow.Schema.Record

/-!
# Jumps

A jump goes on at another step, up to a number of times in one session.
-/

namespace ChatFlow.Step

open Schema

structure Jump where
  target : Option String
  maxJumps : Option Int
  deriving DecidableEq, Repr

/-- The id of a target; an integer is written out. As with the ids of nodes, it comes from `Json.read`
and is never too long for this. -/
def Jump.decodeTarget : Decoder (Option String)
  | .null => .ok none
  | .int n => .ok (some (toString n))
  | v => (string v).map some

def Jump.decode : Decoder Jump := record fun fields =>
  Jump.mk <$> defaulted fields ["stepId", "step_id"] none Jump.decodeTarget
    <*> defaulted fields ["maxJumps", "max_jumps"] none (nullable integer)

/-- How often a jump may be taken; without a number of its own, or with zero, as often as the
settings say. -/
def Jump.limit (j : Jump) (default : Int) : Int :=
  match j.maxJumps with
  | some n => if n = 0 then default else n
  | none => default

end ChatFlow.Step
