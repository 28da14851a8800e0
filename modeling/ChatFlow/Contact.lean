import ChatFlow.Assoc

/-!
# Contacts

What is known about the customer of a conversation. Three fields are always there, and empty until
they are set; any others are kept as they come.
-/

namespace ChatFlow

structure Contact where
  name : String := ""
  phoneNumber : String := ""
  email : String := ""
  extra : Assoc String := []
  deriving DecidableEq, Repr

namespace Contact

def set (c : Contact) (field value : String) : Contact :=
  if field = "name" then { c with name := value }
  else if field = "phone_number" then { c with phoneNumber := value }
  else if field = "email" then { c with email := value }
  else { c with extra := c.extra.put field value }

/-- Read a field. The default stands for a field that is absent, and for an empty one of the three
that are always there. -/
def get (c : Contact) (field : String) (default : String := "") : String :=
  if field = "name" then orDefault c.name
  else if field = "phone_number" then orDefault c.phoneNumber
  else if field = "email" then orDefault c.email
  else (c.extra.get? field).getD default
where
  orDefault (s : String) : String := if s.isEmpty then default else s

end Contact

end ChatFlow
