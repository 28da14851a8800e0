import ChatFlow.Schema.Record
import ChatFlow.Workflow.Node

/-!
# Reading workflow nodes

`Node.decode` reads a tree of nodes from JSON. An id is a text or an integer, and no truth value; a
null id, payload or list of children is the same as none. Every fault of the tree is reported, in
the order of the fields and with the children from left to right.
-/

namespace ChatFlow.Node

open Schema

/-- The id of a node, with an integer written out. Definitions come from `Json.read`, which takes no
integer of so many digits that this would fail. -/
def decodeId : Decoder (Option String)
  | .null => .ok none
  | .bool _ => .complain .badId
  | .int n => .ok (some (toString n))
  | v => (string v).map some

def decodeKind : Decoder NodeKind := fun v => (string v).map NodeKind.ofName

def decodeData : Decoder (Assoc Json)
  | .null => .ok []
  | v => object v

mutual

def decode : Json → Checked Node
  | .obj fields =>
    Node.mk <$> defaulted fields ["id"] none decodeId
      <*> required fields ["type", "kind"] decodeKind
      <*> defaulted fields ["data"] [] decodeData
      <*> match childrenAt "childs" fields with
        | some children => children
        | none => (childrenAt "children" fields).getD (.ok [])
  | _ => .complain .notRecord

/-- The children under a name, if an object has it. -/
def childrenAt (name : String) : List (String × Json) → Option (Checked (List Node))
  | [] => none
  | (k, v) :: fields =>
    if k = name then some ((decodeChildren v).under (.field name)) else childrenAt name fields

def decodeChildren : Json → Checked (List Node)
  | .null => .ok []
  | .arr vs => decodeFrom 0 vs
  | _ => .complain .notChildren

/-- The nodes of a list from position `i` on. -/
def decodeFrom (i : Nat) : List Json → Checked (List Node)
  | [] => .ok []
  | v :: vs => List.cons <$> (decode v).under (.item i) <*> decodeFrom (i + 1) vs

end

end ChatFlow.Node
