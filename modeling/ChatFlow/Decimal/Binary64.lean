/-!
# Doubles as exact numbers

A finite double is `m * 2 ^ q` for a natural `m` and an integer `q`. `Binary64.Parts.of` reads the
two off its bits, `Binary64.nearest` goes back: from a fraction to the double nearest to it, a tie
going to the even neighbour.
-/

namespace ChatFlow.Binary64

inductive Parts where
  | finite (negative : Bool) (m : Nat) (q : Int)
  | infinite (negative : Bool)
  | notANumber

/-- Read the bits of a double: sign, eleven bits of exponent, fifty-two of fraction. -/
def Parts.of (x : Float) : Parts :=
  let bits := x.toBits.toNat
  let negative := bits / Nat.pow 2 63 == 1
  let exponent : Nat := bits / Nat.pow 2 52 % Nat.pow 2 11
  let fraction : Nat := bits % Nat.pow 2 52
  if exponent == 2047 then
    if fraction == 0 then .infinite negative else .notANumber
  else if exponent == 0 then .finite negative fraction (-1074)
  else .finite negative (Nat.pow 2 52 + fraction) (exponent - 1075)

/-- The integer next to a fraction, a tie going to the even one. -/
def roundDiv (num den : Nat) : Nat :=
  let d := num / den
  let r := 2 * (num % den)
  if r < den || (r == den && d % 2 == 0) then d else d + 1

/-- The fraction `num * 2 ^ (-q) / den`. -/
def scale (num den : Nat) (q : Int) : Nat × Nat :=
  match q with
  | .ofNat n => (num, den * Nat.pow 2 n)
  | .negSucc n => (num * Nat.pow 2 (n + 1), den)

/-- `num * 2 ^ (-q) / den`, rounded. -/
def scaled (num den : Nat) (q : Int) : Nat :=
  let (n, d) := scale num den q
  roundDiv n d

/-- The exponent at which the whole part of a fraction has fifty-three binary digits, or the least
exponent of a double if that one is greater. -/
def exponentOf (num den : Nat) : Int :=
  let guess : Int := (num.log2 : Int) - den.log2 - 52
  let (n, d) := scale num den guess
  max (-1074) (if n / d < Nat.pow 2 52 then guess - 1 else guess)

/-- The bits of the double nearest to `num / den`; numbers past the largest double are infinite. -/
def nearestBits (num den : Nat) : Nat :=
  if num == 0 || den == 0 then 0
  else
    let q := exponentOf num den
    let m := scaled num den q
    let (m, q) := if m ≥ Nat.pow 2 53 then (Nat.pow 2 52, q + 1) else (m, q)
    if m < Nat.pow 2 52 then m
    else if q > 971 then 2047 * Nat.pow 2 52
    else (q + 1075).toNat * Nat.pow 2 52 + (m - Nat.pow 2 52)

/-- The double nearest to `± num / den`. -/
def nearest (negative : Bool) (num den : Nat) : Float :=
  Float.ofBits (UInt64.ofNat (nearestBits num den + if negative then Nat.pow 2 63 else 0))

/-- The double nearest to `± m * 10 ^ e`. Beyond four hundred places the result is infinite or
zero, whatever the digits are. -/
def ofDecimal (negative : Bool) (m : Nat) (e : Int) : Float :=
  let digits : Int := (Nat.toDigits 10 m).length
  if m == 0 || digits + e < -400 then nearest negative 0 1
  else if digits + e > 400 then nearest negative (Nat.pow 10 400) 1
  else match e with
    | .ofNat n => nearest negative (m * Nat.pow 10 n) 1
    | .negSucc n => nearest negative m (Nat.pow 10 (n + 1))

def ofInt (n : Int) : Float := nearest (n < 0) n.natAbs 1

def value (m : Nat) (q : Int) : Rat :=
  match q with
  | .ofNat n => ((m * Nat.pow 2 n : Nat) : Rat)
  | .negSucc n => mkRat m (Nat.pow 2 (n + 1))

/-- The exact value of a finite double. -/
def toRat? (x : Float) : Option Rat :=
  match Parts.of x with
  | .finite negative m q => some (if negative then -value m q else value m q)
  | _ => none

/-- A number as a double has it, if its exponent may be as large as need be. -/
def rounded (r : Rat) : Rat :=
  let q := exponentOf r.num.natAbs r.den
  let magnitude := value (scaled r.num.natAbs r.den q) q
  if r.num < 0 then -magnitude else magnitude

/-- A finite double without its fraction. -/
def truncate? (x : Float) : Option Int :=
  match Parts.of x with
  | .finite negative m q =>
    let magnitude : Int := match q with
      | .ofNat n => (m * Nat.pow 2 n : Nat)
      | .negSucc n => (m / Nat.pow 2 (n + 1) : Nat)
    some (if negative then -magnitude else magnitude)
  | _ => none

def ofRat (r : Rat) : Float := nearest (r.num < 0) r.num.natAbs r.den

end ChatFlow.Binary64
