import ChatFlow.Decimal.Binary64
import ChatFlow.Fault
import ChatFlow.Json
import ChatFlow.Text.CodePoint
import ChatFlow.Text.Hex
import ChatFlow.Text.Integer

/-!
# Reading JSON

`Json.read` reads a text that holds one value between blanks. Beside the JSON grammar it takes the
words `NaN`, `Infinity` and `-Infinity`; a number with a fraction or an exponent is a double, which
overflows to infinity, and any other number an integer, which must not have too many digits. A
repeated key keeps its first place and its last value. Values must not stand inside each other too
deep.
-/

namespace ChatFlow.Json

namespace Reader

/-- The outcome of reading: a value with the characters after it, or the reason why there is
none. -/
abbrev Outcome (α : Type) := Except Fault α

def isBlank (c : Char) : Bool := c == ' ' || c == '\t' || c == '\n' || c == '\r'

def skip (cs : List Char) : List Char := cs.dropWhile isBlank

/-! ### Numbers -/

def digitsValue (ds : List Char) : Nat := ds.foldl (fun n c => 10 * n + (c.toNat - 48)) 0

def digits (cs : List Char) : List Char × List Char := cs.span Char.isDigit

/-- The whole part: a lone zero, or digits that start with another one. -/
def whole? (cs : List Char) : Option (List Char × List Char) :=
  match cs with
  | '0' :: r => some (['0'], r)
  | _ => let (ds, r) := digits cs; if ds.isEmpty then none else some (ds, r)

/-- A point and at least one digit. -/
def places? (cs : List Char) : Option (List Char × List Char) :=
  match cs with
  | '.' :: r => let (ds, r') := digits r; if ds.isEmpty then none else some (ds, r')
  | _ => none

/-- The letter `e`, a sign or none, and at least one digit. -/
def power? (cs : List Char) : Option (Int × List Char) :=
  let signed (r : List Char) : Bool × List Char := match r with
    | '-' :: r => (true, r)
    | '+' :: r => (false, r)
    | r => (false, r)
  match cs with
  | c :: r =>
    if c == 'e' || c == 'E' then
      let (negative, r) := signed r
      let (ds, r') := digits r
      if ds.isEmpty then none
      else some (if negative then -(digitsValue ds : Int) else digitsValue ds, r')
    else none
  | [] => none

/-- A number without its sign. -/
def magnitude (negative : Bool) (cs : List Char) : Outcome (Json × List Char) :=
  match whole? cs with
  | none => .error .notJson
  | some (ds, r) =>
    let (fs, r) := (places? r).getD ([], r)
    match fs, power? r with
    | [], none =>
      if ds.length > Text.maxDigits then .error .oversizedNumber
      else
        let n : Int := digitsValue ds
        .ok (int (if negative then -n else n), r)
    | fs, power =>
      let (e, r) := power.getD (0, r)
      .ok (float (Binary64.ofDecimal negative (digitsValue (ds ++ fs)) (e - fs.length)), r)

/-- A number, or the words `Infinity` and `NaN`. -/
def number (cs : List Char) : Outcome (Json × List Char) :=
  match cs with
  | 'N' :: 'a' :: 'N' :: r => .ok (float (Float.ofBits 0x7ff8000000000000), r)
  | 'I' :: 'n' :: 'f' :: 'i' :: 'n' :: 'i' :: 't' :: 'y' :: r =>
    .ok (float (Binary64.nearest false (Nat.pow 10 400) 1), r)
  | '-' :: 'I' :: 'n' :: 'f' :: 'i' :: 'n' :: 'i' :: 't' :: 'y' :: r =>
    .ok (float (Binary64.nearest true (Nat.pow 10 400) 1), r)
  | '-' :: r => magnitude true r
  | _ => magnitude false cs

/-! ### Texts -/

def unit? (a b c d : Char) : Option Nat := do
  let high := (← Text.hexValue? a) * 16 + (← Text.hexValue? b)
  let low := (← Text.hexValue? c) * 16 + (← Text.hexValue? d)
  return high * 256 + low

def escape? (c : Char) : Option Char :=
  match c with
  | '"' => some '"'
  | '\\' => some '\\'
  | '/' => some '/'
  | 'b' => some '\x08'
  | 'f' => some '\x0c'
  | 'n' => some '\n'
  | 'r' => some '\r'
  | 't' => some '\t'
  | _ => none

/-- A piece of a text: a character, or a code unit that an escape names. -/
inductive Piece where
  | char (c : Char)
  | unit (n : Nat)

/-- The pieces of a text up to its closing quote. Control characters must be escaped. -/
def pieces? : List Char → Option (List Piece × List Char)
  | [] => none
  | '"' :: r => some ([], r)
  | '\\' :: 'u' :: a :: b :: c :: d :: r => do
    let n ← unit? a b c d
    (pieces? r).map fun (ps, r) => (.unit n :: ps, r)
  | '\\' :: c :: r => do
    let e ← escape? c
    (pieces? r).map fun (ps, r) => (.char e :: ps, r)
  | c :: r =>
    if c.toNat < 32 || c == '\\' then none
    else (pieces? r).map fun (ps, r) => (.char c :: ps, r)

/-- The characters of pieces. Two units make a surrogate pair, if they are the halves of one; half a
pair is kept as it is. -/
def ofPieces : List Piece → List Char
  | [] => []
  | .char c :: ps => c :: ofPieces ps
  | [.unit n] => Text.ofPoint n
  | .unit n :: .char c :: ps => Text.ofPoint n ++ c :: ofPieces ps
  | .unit n :: .unit m :: ps =>
    if Text.isLead n && Text.isTrail m then Text.ofPoint (Text.paired n m) ++ ofPieces ps
    else Text.ofPoint n ++ ofPieces (.unit m :: ps)

def text (cs : List Char) : Outcome (String × List Char) :=
  match pieces? cs with
  | some (ps, r) => .ok (String.ofList (ofPieces ps), r)
  | none => .error .notJson

/-! ### Values -/

mutual

/-- One value, with no blanks before it, which has no more than `depth` values inside each other.
Each call of the three functions spends one unit of the second argument, and at most two calls start
at the same character. -/
def value (depth : Nat) : Nat → List Char → Outcome (Json × List Char)
  | 0, _ => .error .notJson
  | fuel + 1, cs => match cs with
    | 'n' :: 'u' :: 'l' :: 'l' :: r => .ok (null, r)
    | 't' :: 'r' :: 'u' :: 'e' :: r => .ok (bool true, r)
    | 'f' :: 'a' :: 'l' :: 's' :: 'e' :: r => .ok (bool false, r)
    | '"' :: r => do
      let (s, r) ← text r
      return (str s, r)
    | '[' :: r => if depth = 0 then .error .tooDeep else match skip r with
      | ']' :: r => .ok (arr [], r)
      | r => do
        let (vs, r) ← items (depth - 1) fuel r
        return (arr vs, r)
    | '{' :: r => if depth = 0 then .error .tooDeep else match skip r with
      | '}' :: r => .ok (obj [], r)
      | r => do
        let (fs, r) ← fields (depth - 1) fuel r
        return (obj (Assoc.ofEntries fs), r)
    | cs => number cs

/-- The values of a list up to its closing bracket, at least one. -/
def items (depth : Nat) : Nat → List Char → Outcome (List Json × List Char)
  | 0, _ => .error .notJson
  | fuel + 1, cs => do
    let (v, r) ← value depth fuel cs
    match skip r with
    | ']' :: r => return ([v], r)
    | ',' :: r =>
      let (vs, r) ← items depth fuel (skip r)
      return (v :: vs, r)
    | _ => .error .notJson

/-- The fields of an object up to its closing brace, at least one. -/
def fields (depth : Nat) : Nat → List Char → Outcome (List (String × Json) × List Char)
  | 0, _ => .error .notJson
  | fuel + 1, cs => match cs with
    | '"' :: r => do
      let (k, r) ← text r
      match skip r with
      | ':' :: r =>
        let (v, r) ← value depth fuel (skip r)
        match skip r with
        | '}' :: r => return ([(k, v)], r)
        | ',' :: r =>
          let (fs, r) ← fields depth fuel (skip r)
          return ((k, v) :: fs, r)
        | _ => .error .notJson
      | _ => .error .notJson
    | _ => .error .notJson

end

end Reader

def maxDepth : Nat := 985

def read (s : String) : Except Fault Json :=
  match Reader.value maxDepth (2 * s.length + 2) (Reader.skip s.toList) with
  | .ok (v, r) => if (Reader.skip r).isEmpty then .ok v else .error .notJson
  | .error f => .error f

/-- Read a text that holds one value, if it does. -/
def parse (s : String) : Option Json := (read s).toOption

end ChatFlow.Json
