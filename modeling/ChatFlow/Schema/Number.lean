import ChatFlow.Decimal.Binary64
import ChatFlow.Json.Reader
import ChatFlow.Schema.Decode
import ChatFlow.Text.Search

/-!
# Reading numbers leniently

`integer` takes integers, truth values, whole doubles and texts of digits; `double` takes numbers of
both kinds, truth values and their texts. `above` and `atLeast` bound what was read.
-/

namespace ChatFlow.Schema

/-- A double as an integer: it must be whole and fit 64 bits. -/
def wholeDouble (x : Float) : Checked Int :=
  match Binary64.toRat? x with
  | none => .complain .notFinite
  | some r =>
    if r.den ≠ 1 then .complain .fractionalInt
    else if -(Nat.pow 2 63) < r.num && r.num < Nat.pow 2 63 then .ok r.num
    else .complain .oversizedInt

def integer : Decoder Int
  | .int n => .ok n
  | .bool b => .ok (if b then 1 else 0)
  | .float x => wholeDouble x
  | .str s => meaning intText s
  | _ => .complain .notInt

/-- A number without its sign: a word, or digits with a point and an exponent; digits may be absent
on one side of the point. -/
def magnitudeText? (negative : Bool) (cs : List Char) : Option Float :=
  let word := String.ofList (cs.map Char.toLower)
  if word == "inf" || word == "infinity" then some (Binary64.nearest negative (Nat.pow 10 400) 1)
  else if word == "nan" then some (Float.ofBits 0x7ff8000000000000)
  else
    let (ds, r) := Json.Reader.digits cs
    let (fs, r) := match r with
      | '.' :: r => Json.Reader.digits r
      | r => ([], r)
    if ds.isEmpty && fs.isEmpty then none
    else
      let value (e : Int) : Float :=
        Binary64.ofDecimal negative (Json.Reader.digitsValue (ds ++ fs)) (e - fs.length)
      match r, Json.Reader.power? r with
      | [], _ => some (value 0)
      | _, some (e, []) => some (value e)
      | _, _ => none

def signedText? : List Char → Option Float
  | '-' :: r => magnitudeText? true r
  | '+' :: r => magnitudeText? false r
  | r => magnitudeText? false r

/-- Whether a text has underscores, but none at its ends and no two in a row. -/
def hasInnerUnderscores (cs : List Char) : Bool :=
  cs.contains '_' && cs.head? != some '_' && cs.getLast? != some '_' &&
    !Text.occursInChars ['_', '_'] cs

/-- The text of a number: with white space around it, or with underscores in it. -/
def doubleText? (s : String) : Option Float :=
  match signedText? (Text.stripChars Text.isNumberBlank s.toList) with
  | some x => some x
  | none =>
    if hasInnerUnderscores s.toList then signedText? (s.toList.filter (· != '_')) else none

def double : Decoder Float
  | .int n =>
    let x := Binary64.ofInt n
    if x.isFinite then .ok x else .complain .notFloat
  | .bool b => .ok (if b then 1 else 0)
  | .float x => .ok x
  | .str s => s |> meaning fun s => match doubleText? s with
    | some x => .ok x
    | none => .complain .unreadableFloat
  | _ => .complain .notFloat

def above (bound : Float) (d : Decoder Float) : Decoder Float := fun v =>
  (d v).bind fun x => if x > bound then .ok x else .complain .notGreater

def atLeast (bound : Float) (d : Decoder Float) : Decoder Float := fun v =>
  (d v).bind fun x => if x ≥ bound then .ok x else .complain .tooSmall

/-- A natural number, read as an integer. -/
def natural : Decoder Nat := fun v =>
  (integer v).bind fun n => if n ≥ 0 then .ok n.toNat else .complain .tooSmall

end ChatFlow.Schema
