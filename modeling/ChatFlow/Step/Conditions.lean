import ChatFlow.Step.Target

/-!
# Conditions of a branch

A branch is guarded by a list of predicates on the variables of the session.
-/

namespace ChatFlow.Step

open Schema

structure Predicate where
  hasVariable : Bool
  variableName : Option String
  operator : Option String
  values : Json

def Predicate.subjectName? (p : Predicate) : Option String :=
  Target.named p.hasVariable p.variableName

def Predicate.decode : Decoder Predicate := record fun fields =>
  Predicate.mk <$> defaulted fields ["hasVariable", "has_variable"] false boolean
    <*> defaulted fields ["variable"] none (nullable string)
    <*> defaulted fields ["filter_operator"] none (nullable string)
    <*> defaulted fields ["values"] (.str "") anything

structure Conditions where
  predicates : List Predicate

/-- Read the payload of a guarded branch; null stands for no predicates. -/
def Conditions.decode : Decoder Conditions := record fun fields =>
  Conditions.mk <$> defaulted fields ["conditions"] [] fun
    | .null => .ok []
    | v => list Predicate.decode v

end ChatFlow.Step
