import ChatFlow.Assoc

/-!
# JSON values

A value keeps the order of an object's fields. Integers have any size and are not doubles: `1` and
`1.0` are different values.
-/

namespace ChatFlow

inductive Json where
  | null
  | bool (b : Bool)
  | int (n : Int)
  | float (x : Float)
  | str (s : String)
  | arr (items : List Json)
  | obj (fields : List (String × Json))
  deriving Inhabited

namespace Json

/-- Null, false, zero, and every text, list or object without content count as empty. -/
def isEmpty : Json → Bool
  | null => true
  | bool b => !b
  | int n => n == 0
  | float x => x == 0
  | str s => s.isEmpty
  | arr items => items.isEmpty
  | obj fields => fields.isEmpty

/-- A value, or another in place of an empty one. -/
def ifEmpty (v d : Json) : Json := if v.isEmpty then d else v

def text? : Json → Option String
  | str s => some s
  | _ => none

def field? : Json → String → Option Json
  | obj fields, k => Assoc.get? fields k
  | _, _ => none

def kindName : Json → String
  | null => "NoneType"
  | bool _ => "bool"
  | int _ => "int"
  | float _ => "float"
  | str _ => "str"
  | arr _ => "list"
  | obj _ => "dict"

def ofText? : Option String → Json
  | some s => str s
  | none => null

end Json

end ChatFlow
