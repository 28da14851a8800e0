import ChatFlow.Clock
import ChatFlow.Contact

/-!
# Sessions

The live state of one conversation: whose it is, what has been learned so far, and which question
waits for an answer.
-/

namespace ChatFlow

structure Session where
  id : String
  contact : Contact
  lastActivity : Instant
  vars : Assoc String := []
  /-- The id of the question that waits for an answer. -/
  waiting : Option String := none
  jumpCounts : Assoc Int := []
  /-- How many answers in a row each question has refused. -/
  invalidAttempts : Assoc Int := []
  deriving DecidableEq

namespace Session

def start (now : Instant) (id name : String) : Session :=
  { id, contact := { name, phoneNumber := id }, lastActivity := now }

/-- The session when its customer has just been heard. -/
def touch (s : Session) (now : Instant) : Session := { s with lastActivity := now }

@[simp] theorem id_touch (s : Session) (now : Instant) : (s.touch now).id = s.id := rfl

def setVariable (s : Session) (name value : String) : Session :=
  { s with vars := s.vars.put name value }

/-- The question that waits, unless its id is empty. -/
def pending? (s : Session) : Option String := s.waiting.filter (! ·.isEmpty)

end Session

end ChatFlow
