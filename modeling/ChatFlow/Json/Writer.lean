import ChatFlow.Decimal.Shortest
import ChatFlow.Fault
import ChatFlow.Json
import ChatFlow.Text.Quoted

/-!
# Writing values

`Json.render` writes a value as compact JSON: fields in their order, no blanks, characters beyond
ASCII as they are. `Json.display` writes it the way log lines show values, with texts in quotes and
`None`, `True` and `False` for the constants; `Json.words` is the same but for a text, which stands
without quotes.
-/

namespace ChatFlow.Json

/-! ### Compact JSON -/

/-- Doubles in JSON: positional from `0.0001` up to sixteen digits before the point. -/
def numberStyle : Decimal.Style := ⟨-4, 16, "NaN", "Infinity"⟩

def escapeChar (c : Char) : List Char :=
  match c with
  | '"' => ['\\', '"']
  | '\\' => ['\\', '\\']
  | '\n' => ['\\', 'n']
  | '\r' => ['\\', 'r']
  | '\t' => ['\\', 't']
  | '\x0c' => ['\\', 'f']
  | '\x08' => ['\\', 'b']
  | c => if c.toNat < 32 then '\\' :: 'u' :: (Text.hex 4 c.toNat).toList else [c]

def quotedChars (s : String) : List Char := '"' :: s.toList.flatMap escapeChar ++ ['"']

mutual

def chars : Json → List Char
  | null => ['n', 'u', 'l', 'l']
  | bool true => ['t', 'r', 'u', 'e']
  | bool false => ['f', 'a', 'l', 's', 'e']
  | int n => (toString n).toList
  | float x => (numberStyle.text x).toList
  | str s => quotedChars s
  | arr [] => ['[', ']']
  | arr (v :: vs) => '[' :: chars v ++ itemsChars vs
  | obj [] => ['{', '}']
  | obj ((k, v) :: fs) => '{' :: quotedChars k ++ ':' :: chars v ++ fieldsChars fs

/-- The items after the first one, and the closing bracket. -/
def itemsChars : List Json → List Char
  | [] => [']']
  | v :: vs => ',' :: chars v ++ itemsChars vs

/-- The fields after the first one, and the closing brace. -/
def fieldsChars : List (String × Json) → List Char
  | [] => ['}']
  | (k, v) :: fs => ',' :: quotedChars k ++ ':' :: chars v ++ fieldsChars fs

end

def render (v : Json) : String := String.ofList (chars v)

mutual

/-- Whether every number in a value is finite, so that the JSON grammar has a text for it. -/
def isFinite : Json → Bool
  | float x => x.isFinite
  | arr vs => allFinite vs
  | obj fs => fieldsFinite fs
  | _ => true

def allFinite : List Json → Bool
  | [] => true
  | v :: vs => isFinite v && allFinite vs

def fieldsFinite : List (String × Json) → Bool
  | [] => true
  | (_, v) :: fs => isFinite v && fieldsFinite fs

end

/-- A value as the body of a message: JSON has a text for finite numbers only, and the text has to
have an encoding. -/
def encode (v : Json) : Except Fault String :=
  if !v.isFinite then .error .unwritable
  else if Text.isEncodable v.render then .ok v.render
  else .error .unencodable

theorem encode_eq_ok {v : Json} (hf : v.isFinite)
    (h : (Text.points v.chars).all (! Text.isHalf ·)) : v.encode = .ok v.render := by
  have : Text.isEncodable v.render := by rw [Text.isEncodable, render, String.toList_ofList]; exact h
  rw [encode, hf, this]; rfl

/-- The text that stands for a value: a text for itself, null for the empty one, and any other
value for its compact JSON. -/
def plainText : Json → String
  | null => ""
  | str s => s
  | v => v.render

/-! ### Values in messages -/

def displayStyle : Decimal.Style := ⟨-4, 16, "nan", "inf"⟩

mutual

def display : Json → String
  | null => "None"
  | bool b => if b then "True" else "False"
  | int n => toString n
  | float x => displayStyle.text x
  | str s => Text.quoted s
  | arr vs => "[" ++ displayItems vs ++ "]"
  | obj fs => "\x7b" ++ displayFields fs ++ "\x7d"

def displayItems : List Json → String
  | [] => ""
  | [v] => display v
  | v :: vs => display v ++ ", " ++ displayItems vs

def displayFields : List (String × Json) → String
  | [] => ""
  | [(k, v)] => Text.quoted k ++ ": " ++ display v
  | (k, v) :: fs => Text.quoted k ++ ": " ++ display v ++ ", " ++ displayFields fs

end

def words : Json → String
  | str s => s
  | v => display v

/-- A value in running text, or `None` if there is none. -/
def wordsOption : Option Json → String
  | some v => words v
  | none => "None"

end ChatFlow.Json
