import ChatFlow.Decimal.Binary64

/-!
# The shortest decimal text of a double

`shortest` finds the fewest decimal digits that read back as a given double, and of those the
digits nearest to it. `Style` says how a program writes such digits down: up to which size
positionally, how the exponent looks, and the words for what is no number.
-/

namespace ChatFlow.Decimal

structure Scientific where
  digits : Nat
  exponent : Int

/-- `n * 10 ^ e` as a fraction. -/
def Scientific.fraction (n : Nat) : Int → Nat × Nat
  | .ofNat k => (n * Nat.pow 10 k, 1)
  | .negSucc k => (n, Nat.pow 10 (k + 1))

/-- The number of decimal digits; zero has none. -/
def digitCount (n : Nat) : Nat := if n == 0 then 0 else (Nat.toDigits 10 n).length

def leadingExponent (num den : Nat) : Int :=
  if den ≤ num then (digitCount (num / den) : Int) - 1
  else -(digitCount ((den + num - 1) / num - 1) : Int)

/-- The reals that round to `m * 2 ^ q`, and the number itself, over one denominator. The interval
is narrower below a power of two, and holds its ends if `m` is even. -/
structure Interval where
  low : Nat
  value : Nat
  high : Nat
  den : Nat
  closed : Bool

def Interval.of (m : Nat) (q : Int) : Interval :=
  let below := if m == Nat.pow 2 52 && q > -1074 then 1 else 2
  let (scale, den) := match q - 2 with
    | .ofNat k => (Nat.pow 2 k, 1)
    | .negSucc k => (1, Nat.pow 2 (k + 1))
  ⟨(4 * m - below) * scale, 4 * m * scale, (4 * m + 2) * scale, den, m % 2 == 0⟩

def Interval.contains (i : Interval) (num den : Nat) : Bool :=
  if i.closed then i.low * den ≤ num * i.den && num * i.den ≤ i.high * den
  else i.low * den < num * i.den && num * i.den < i.high * den

/-- The digits on the grid of `10 ^ e` next to the number, if a neighbour lies in the interval: of
two such the nearer one, and the even one if both are as near. -/
def Interval.onGrid (i : Interval) (e : Int) : Option Nat :=
  let (gnum, gden) := Scientific.fraction 1 e
  let num := i.value * gden
  let den := i.den * gnum
  let d := num / den
  let inside (n : Nat) : Bool := i.contains (n * gnum) gden
  match inside d, inside (d + 1) with
  | true, true => some (Binary64.roundDiv num den)
  | true, false => some d
  | false, true => some (d + 1)
  | false, false => none

/-- Drop trailing zeros from the digits, at most `fuel` of them. -/
def Scientific.trim : Nat → Nat → Int → Scientific
  | 0, d, e => ⟨d, e⟩
  | fuel + 1, d, e => if d != 0 && d % 10 == 0 then trim fuel (d / 10) (e + 1) else ⟨d, e⟩

/-- The fewest digits that read back as `m * 2 ^ q`: the first of the grids of one digit, two
digits and so on that has a point in the interval. Seventeen digits always do. -/
def shortest (m : Nat) (q : Int) : Scientific :=
  let i := Interval.of m q
  let lead := leadingExponent i.value i.den
  let found := (List.range 17).findSome? fun (n : Nat) =>
    (i.onGrid (lead - n)).map fun d => Scientific.trim 18 d (lead - n)
  found.getD ⟨0, 0⟩

structure Style where
  /-- The least exponent of the leading digit that is written positionally. -/
  least : Int
  /-- The first exponent of the leading digit that is no longer written positionally. -/
  bound : Int
  nan : String
  infinity : String

/-- The digits of an exponent: its sign and at least two digits. -/
def exponentText (e : Int) : String :=
  let digits := toString e.natAbs
  (if e < 0 then "-" else "+") ++ (if digits.length < 2 then "0" ++ digits else digits)

/-- Write a positive number: positionally with at least one place, or with one digit before the
point and an exponent. -/
def Style.digitsText (style : Style) (s : Scientific) : String :=
  let ds := Nat.toDigits 10 s.digits
  let count : Int := ds.length
  let lead := s.exponent + count - 1
  if style.least ≤ lead && lead < style.bound then
    if s.exponent ≥ 0 then String.ofList (ds ++ List.replicate s.exponent.toNat '0') ++ ".0"
    else if lead ≥ 0 then
      let whole := (lead + 1).toNat
      String.ofList (ds.take whole) ++ "." ++ String.ofList (ds.drop whole)
    else "0." ++ String.ofList (List.replicate (-lead - 1).toNat '0' ++ ds)
  else
    let places := ds.drop 1
    String.ofList (ds.take 1) ++ (if places.isEmpty then "" else "." ++ String.ofList places)
      ++ "e" ++ exponentText lead

def Style.text (style : Style) (x : Float) : String :=
  match Binary64.Parts.of x with
  | .notANumber => style.nan
  | .infinite negative => (if negative then "-" else "") ++ style.infinity
  | .finite negative m q =>
    (if negative then "-" else "") ++ if m == 0 then "0.0" else style.digitsText (shortest m q)

end ChatFlow.Decimal
