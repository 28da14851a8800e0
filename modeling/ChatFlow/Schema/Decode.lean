import ChatFlow.Json
import ChatFlow.Schema.Issue
import ChatFlow.Text.Blank
import ChatFlow.Text.CodePoint

/-!
# Reading records from JSON

A `Decoder` reads a value of one shape. Numbers and truth values are read leniently: a whole double
or a text of digits is an integer, `"yes"` is a truth value. Texts are not: nothing but a text is
one. A record field may have two names, of which the first wins.
-/

namespace ChatFlow.Schema

abbrev Decoder (α : Type) := Json → Checked α

/-! ### Plain values -/

def anything : Decoder Json := .ok

def string : Decoder String
  | .str s => .ok s
  | _ => .complain .notText

/-- An object, read as its fields. -/
def object : Decoder (Assoc Json)
  | .obj fields => .ok fields
  | _ => .complain .notObject

def nullable {α : Type} (d : Decoder α) : Decoder (Option α)
  | .null => .ok none
  | v => (d v).map some

theorem eq_str_of_string {v : Json} {s : String} (h : string v = .ok s) : v = .str s := by
  cases v with
  | str t => cases h; rfl
  | _ => cases h

theorem eq_ofText?_of_nullable {v : Json} {o : Option String} (h : nullable string v = .ok o) :
    v = .ofText? o := by
  cases v with
  | null => cases h; rfl
  | str s => cases h; rfl
  | _ => cases h

/-- The items of a list from position `i` on. -/
def itemsFrom {α : Type} (d : Decoder α) : Nat → List Json → Checked (List α)
  | _, [] => .ok []
  | i, v :: vs => List.cons <$> (d v).under (.item i) <*> itemsFrom d (i + 1) vs

def list {α : Type} (d : Decoder α) : Decoder (List α)
  | .arr vs => itemsFrom d 0 vs
  | _ => .complain .notList

/-- Read a text that stands for something else; it has to be one that can be encoded. -/
def meaning {α : Type} (read : String → Checked α) (s : String) : Checked α :=
  if Text.isEncodable s then read s else .complain .notEncodable

/-- The words for a truth value, in any case. -/
def boolWord? (s : String) : Option Bool :=
  let w := s.toLower
  if ["0", "off", "f", "false", "n", "no"].contains w then some false
  else if ["1", "on", "t", "true", "y", "yes"].contains w then some true
  else none

/-- A truth value, zero or one, or a word for one of the two. -/
def boolean : Decoder Bool
  | .bool b => .ok b
  | .int n =>
    if n == 0 then .ok false
    else if n == 1 then .ok true
    else if -(Nat.pow 2 63) ≤ n && n < Nat.pow 2 63 then .complain .unreadableBool
    else .complain .notBool
  | .float x => if x == 0 then .ok false else if x == 1 then .ok true else .complain .notBool
  | .str s => s |> meaning fun s => match boolWord? s with
    | some b => .ok b
    | none => .complain .unreadableBool
  | _ => .complain .notBool

/-! ### Integers in texts -/

/-- Digits with single underscores between them, without those, after the digits before. -/
def plainDigits? (before : List Char) : List Char → Option (List Char)
  | [] => some before.reverse
  | '_' :: c :: cs => if c.isDigit then plainDigits? (c :: before) cs else none
  | c :: cs => if c.isDigit then plainDigits? (c :: before) cs else none

/-- Digits without the zeros before them; underscores may stand between and after those zeros, as
many as there are. -/
def dropLeadingZeros (cs : List Char) : List Char :=
  match cs with
  | '0' :: _ =>
    let (zeros, r) := cs.span fun c => c == '0' || c == '_'
    match r with
    | c :: _ => if c.isDigit then r else (zeros.getLast?.toList ++ r)
    | [] => zeros.getLast?.toList
  | _ => cs

/-- The digits of an integer without its sign, which may have a fraction of zeros. -/
def intDigits? (cs : List Char) : Option (List Char) :=
  let (ds, places) := (dropLeadingZeros cs).span (· != '.')
  match ds, places with
  | '_' :: _, _ => none
  | [], _ => none
  | _, ['.'] => none
  | _, _ => if (places.drop 1).all (· == '0') then plainDigits? [] ds else none

/-- The longest integer that is read from a text; a minus counts as one of its digits. -/
def maxIntLength : Nat := 4300

/-- Read the text of an integer: a sign or none, and digits. -/
def intText (s : String) : Checked Int :=
  let cs := Text.stripChars Text.isNumberBlank s.toList
  let (negative, cs) := match cs with
    | '-' :: r => (true, r)
    | '+' :: r => (false, r)
    | r => (false, r)
  match intDigits? cs with
  | none => .complain .unreadableInt
  | some ds =>
    if ds.length + (if negative then 1 else 0) > maxIntLength then .complain .oversizedInt
    else
      let n : Nat := ds.foldl (fun n c => 10 * n + (c.toNat - 48)) 0
      .ok (if negative then -(n : Int) else n)

end ChatFlow.Schema
