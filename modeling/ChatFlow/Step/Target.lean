import ChatFlow.Schema.Record

/-!
# Where a value is kept

A step can keep an answer or a response in a variable of the session, in a field of the contact, in
both or nowhere. A name counts only if its switch is on, and an empty name never does.
-/

namespace ChatFlow.Step

open Schema

/-- The places named for a value, each with a switch. -/
structure Target where
  hasVariable : Bool
  variableName : Option String
  hasField : Bool
  fieldName : Option String
  deriving DecidableEq, Repr

namespace Target

def decode : Decoder Target := record fun fields =>
  Target.mk <$> defaulted fields ["hasVariable", "has_variable"] false boolean
    <*> defaulted fields ["variable"] none (nullable string)
    <*> defaulted fields ["hasField", "has_field"] false boolean
    <*> defaulted fields ["field", "contact_field"] none (nullable string)

/-- A name that is switched on and not empty. -/
def named (on : Bool) (name : Option String) : Option String :=
  if on then name.filter (! ·.isEmpty) else none

def toVariable? (t : Target) : Option String := named t.hasVariable t.variableName

def toField? (t : Target) : Option String := named t.hasField t.fieldName

end Target

end ChatFlow.Step
