import ChatFlow.Fault
import ChatFlow.Json
import ChatFlow.Text.CodePoint

/-!
# Reading values of unknown shape

Data from outside is read without being checked first: each access says what it takes the value
for, and fails if it is something else. Null, zero and empty values stand for nothing at all.
-/

namespace ChatFlow.Json

/-- A field of a value that has to be an object; `default` if the object does not have it. -/
def member (v : Json) (k : String) (default : Json := .null) : Except Fault Json :=
  match v with
  | obj fields => .ok ((Assoc.get? fields k).getD default)
  | _ => .error .notObject

/-- A field that is to hold an object, where nothing stands for the empty one. -/
def memberObject (v : Json) (k : String) : Except Fault Json := do
  return (← v.member k).ifEmpty (obj [])

/-- The items of a value: of a list, the characters of a text, the keys of an object. -/
def each : Json → Except Fault (List Json)
  | arr vs => .ok vs
  | str s => .ok ((Text.letters s.toList).map fun cs => str (String.ofList cs))
  | obj fields => .ok ((Assoc.keys fields).map str)
  | _ => .error .wrongKind

/-- The items under a field, where nothing stands for the empty list. -/
def memberEach (v : Json) (k : String) : Except Fault (List Json) := do
  each ((← v.member k).ifEmpty (arr []))

/-- The item of a value at a position, if it is long enough to have one; objects have no
positions. -/
def itemAt? (v : Json) (i : Nat) : Except Fault (Option Json) :=
  match v with
  | arr vs => .ok vs[i]?
  | str s => .ok ((Text.letters s.toList)[i]?.map fun cs => str (String.ofList cs))
  | obj fields => if i < fields.length then .error .missingKey else .ok none
  | _ => .error .wrongKind

end ChatFlow.Json
