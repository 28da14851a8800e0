import ChatFlow.Endpoint.Address
import ChatFlow.Json
import ChatFlow.Text.Case

/-!
# Requests to the service

The resources of the service, the paths they stand under and the methods they take. A path with a
slash too many at its end is sent on to the one without. `Request.ofText` makes a request from the
address that it is sent to.
-/

namespace ChatFlow.Service

structure Request where
  method : String
  path : List Char
  query : Assoc String := []
  body : List UInt8 := []
  deriving DecidableEq, Repr

namespace Request

/-- A part of a query, in which a plus is a blank. -/
def plainQuery (cs : List Char) : String :=
  String.ofList (Text.unquote (cs.map fun c => if c == '+' then ' ' else c))

/-- The names and values of a query. The last value of a name counts. -/
def parameters (query : String) : Assoc String :=
  let fields := (Host.Label.pieces (· == '&') query.toList).filter (!·.isEmpty)
  Assoc.ofEntries <| fields.map fun cs =>
    let (name, value) := cs.span (· != '=')
    (plainQuery name, plainQuery (value.drop 1))

/-- A request to an address. Parameters that are given apart take the place of those in the
address. -/
def ofText (method address : String) (query : Option (Assoc String)) (body : String) :
    Except Fault Request := do
  let a ← Endpoint.Address.ofText address
  let path := if a.path.isEmpty then ['/']
    else Text.unquote (Endpoint.Address.plainPath a.path.toList)
  return ⟨Text.upper method, path, query.getD (parameters (a.query.getD "")), Text.utf8 body⟩

end Request

inductive Body where
  | json (v : Json)
  | text (s : String)

structure Response where
  status : Nat
  body : Body

inductive Resource where
  | overview
  | health
  | info
  | conversations
  | messages (phone : String)
  | webhook
  | sendMessage
  deriving DecidableEq, Repr

namespace Resource

def methods : Resource → List String
  | webhook => ["GET", "POST"]
  | sendMessage => ["POST"]
  | _ => ["GET"]

/-- The resource of a path, which is given by its parts. -/
def ofParts : List (List Char) → Option Resource
  | parts => match parts.map String.ofList with
    | ["", ""] => some overview
    | ["", "health"] => some health
    | ["", "api"] => some info
    | ["", "api", "conversations"] => some conversations
    | ["", "api", "conversations", phone, "messages"] =>
      if phone.isEmpty then none else some (messages phone)
    | ["", "webhook"] => some webhook
    | ["", "api", "send-message"] => some sendMessage
    | _ => none

/-- The resource of a path. A line feed at the end of the path does not count. -/
def ofPath (path : List Char) : Option Resource :=
  let line := if path.getLast? == some '\n' then path.dropLast else path
  ofParts (Endpoint.Address.segments line)

end Resource

inductive Route where
  | found (r : Resource)
  | wrongMethod
  | moved
  | unknown
  deriving DecidableEq, Repr

def Request.route (r : Request) : Route :=
  match Resource.ofPath r.path with
  | some found => if found.methods.contains r.method then .found found else .wrongMethod
  | none =>
    let shorter := (r.path.reverse.dropWhile (· == '/')).reverse
    if r.path.getLast? == some '/' && (Resource.ofPath shorter).isSome then .moved else .unknown

end ChatFlow.Service
