import ChatFlow.Endpoint.Address
import ChatFlow.Endpoint.Reply
import ChatFlow.Json.Writer
import ChatFlow.Step.Request
import ChatFlow.Template
import ChatFlow.Text.Case

/-!
# Calls to an endpoint

`Call.ofStep?` makes the call that a request step describes. Its body is a JSON value filled in from
the session, or there is none at all.
-/

namespace ChatFlow.Endpoint

structure Call where
  method : String
  url : Address
  headers : Assoc String
  body : String
  deriving DecidableEq, Repr

/-- The payload of a call: nothing if the body is blank or null, and `none` if it is no JSON. -/
def payload? (body : String) : Option (Option Json) :=
  if Text.allBlank body then some none
  else match Json.parse body with
    | some .null => some none
    | some v => some (some v)
    | none => none

def isAscii (s : String) : Bool := s.toList.all (·.toNat < 128)

/-- The headers of a call: those of the step, of which the last of a name counts, and the type of
the body if there is one. Headers are ASCII. -/
def headers? (headers : List Step.Header) (hasBody : Bool) : Option (Assoc String) :=
  let given := Assoc.ofEntries (headers.map fun h => (h.key, h.value))
  if given.all fun (k, v) => isAscii k && isAscii v then
    let joined := joinHeaders given
    some <| if hasBody && !joined.has "content-type" then
      joined.put "content-type" "application/json"
    else joined
  else none

/-- The call of a request step, if it can be sent at all. A name and a password in the address
count more than what the headers say about them. -/
def Call.ofStep? (r : Step.Request) (s : Session) : Option Call := do
  let payload ← payload? (s.fillOption r.body)
  let url ← (Address.ofText r.url).toOption
  let headers ← headers? r.headers payload.isSome
  let body ← match payload with
    | some v => v.encode.toOption
    | none => some ""
  let headers := match url.authorization? with
    | some shown => headers.put "authorization" shown
    | none => headers
  return ⟨Text.upper r.method, url, headers, body⟩

end ChatFlow.Endpoint
