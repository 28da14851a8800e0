import ChatFlow.Schema.Decode

/-!
# Records

A record is read from an object field by field. Each field has one name or two; if an object gives
both, the first one counts. Unknown fields do not matter.
-/

namespace ChatFlow.Schema

variable {α : Type}

/-- The first of some names that an object has, with its value. -/
def lookup? (fields : Assoc Json) : List String → Option (String × Json)
  | [] => none
  | k :: ks => match Assoc.get? fields k with
    | some v => some (k, v)
    | none => lookup? fields ks

/-- A field that must be there. Its absence is reported under its first name. -/
def required (fields : Assoc Json) (names : List String) (d : Decoder α) : Checked α :=
  match lookup? fields names with
  | some (k, v) => (d v).under (.field k)
  | none => .bad ⟨[.field (names.headD "")], .missing⟩ []

def defaulted (fields : Assoc Json) (names : List String) (default : α) (d : Decoder α) :
    Checked α :=
  match lookup? fields names with
  | some (k, v) => (d v).under (.field k)
  | none => .ok default

def record (read : Assoc Json → Checked α) : Decoder α
  | .obj fields => read fields
  | _ => .complain .notRecord

end ChatFlow.Schema
