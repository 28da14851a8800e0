import ChatFlow.Session
import ChatFlow.Text.Search
import ChatFlow.Text.Word

/-!
# Templates

A template is a text with placeholders in double braces: `contact.` and one of three fields of the
contact, or the name of a variable. Fields are filled in one after the other, then all variables in
one pass from left to right; a value of a variable is never looked at again. The placeholder of a
variable that was never set stays.
-/

namespace ChatFlow

namespace Template

/-- The fields of the contact that have a placeholder. -/
def contactFields : List String := ["name", "phone_number", "email"]

def contactPlaceholder (field : String) : List Char :=
  ['{', '{'] ++ ("contact." ++ field).toList ++ ['}', '}']

def fillContact (c : Contact) (cs : List Char) : List Char :=
  contactFields.foldl
    (fun cs field => Text.replaceChars (contactPlaceholder field) (c.get field).toList cs) cs

/-- The name in the placeholder that a text starts with. -/
def placeholder? : List Char → Option (List Char)
  | '{' :: '{' :: r =>
    let name := r.takeWhile Text.isWord
    match name, r.dropWhile Text.isWord with
    | [], _ => none
    | name, '}' :: '}' :: _ => some name
    | _, _ => none
  | _ => none

def variablePlaceholder (name : List Char) : List Char := ['{', '{'] ++ name ++ ['}', '}']

/-- What stands for a variable: its value, or its placeholder if it was never set. -/
def valueOf (vars : Assoc String) (name : List Char) : List Char :=
  match vars.get? (String.ofList name) with
  | some v => v.toList
  | none => variablePlaceholder name

/-- Fill in the variables, after passing over the first `skip` characters. -/
def fillFrom (vars : Assoc String) (skip : Nat) : List Char → List Char
  | [] => []
  | c :: cs => match skip with
    | n + 1 => fillFrom vars n cs
    | 0 => match placeholder? (c :: cs) with
      | some name => valueOf vars name ++ fillFrom vars (name.length + 3) cs
      | none => c :: fillFrom vars 0 cs

def fillVariables (vars : Assoc String) (cs : List Char) : List Char := fillFrom vars 0 cs

end Template

def Session.fill (s : Session) (template : String) : String :=
  String.ofList
    (Template.fillVariables s.vars (Template.fillContact s.contact template.toList))

/-- A template filled in for a session; none at all gives no text. -/
def Session.fillOption (s : Session) (template : Option String) : String :=
  s.fill (template.getD "")

end ChatFlow
