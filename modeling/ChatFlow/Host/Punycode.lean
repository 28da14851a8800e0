/-!
# Letters of any script in ASCII

A label of a host's name is written in ASCII as its ASCII characters, followed by the places of the
others: in the order of their code points, each place counted from the one before, in numerals of
base thirty-six whose last digit is the first one below a threshold. `encode` writes such a label,
`decode?` reads it.
-/

namespace ChatFlow.Host.Punycode

def digit (d : Nat) : Char := if d < 26 then Char.ofNat (97 + d) else Char.ofNat (22 + d)

def digitValue? (c : Char) : Option Nat :=
  if c.isLower then some (c.toNat - 97)
  else if c.isUpper then some (c.toNat - 65)
  else if c.isDigit then some (c.toNat - 22)
  else none

/-- The threshold for the digit at a position, which grows by thirty-six with each digit. -/
def threshold (position bias : Nat) : Nat :=
  if position ≤ bias then 1 else if bias + 26 ≤ position then 26 else position - bias

theorem threshold_pos (position bias : Nat) : 1 ≤ threshold position bias := by
  unfold threshold; split
  · omega
  · split <;> omega

/-- Bring a distance down to 455, and count thirty-six for each division. -/
def shrink (distance count : Nat) : Nat × Nat :=
  if 455 < distance then shrink (distance / 35) (count + 36) else (distance, count)
termination_by distance
decreasing_by exact Nat.div_lt_self (by omega) (by omega)

/-- The bias after a distance, given how many characters there are now. -/
def adapt (distance size : Nat) (isFirst : Bool) : Nat :=
  let d := if isFirst then distance / 700 else distance / 2
  let (d, count) := shrink (d + d / size) 0
  count + 36 * d / (d + 38)

/-! ### Writing -/

def digits (bias position n : Nat) : List Char :=
  let t := threshold position bias
  if n < t then [digit n]
  else digit (t + (n - t) % (36 - t)) :: digits bias (position + 36) ((n - t) / (36 - t))
termination_by n
decreasing_by
  have := threshold_pos position bias
  exact Nat.lt_of_le_of_lt (Nat.div_le_self _ _) (by omega)

structure Progress where
  written : List Char
  distance : Nat
  bias : Nat
  size : Nat

/-- Pass a character, and write it if it is the one whose turn it is. -/
def Progress.pass (basic n : Nat) (p : Progress) (c : Char) : Progress :=
  if c.toNat < n then { p with distance := p.distance + 1 }
  else if c.toNat = n then
    { written := p.written ++ digits p.bias 36 p.distance, distance := 0,
      bias := adapt p.distance (p.size + 1) (p.size == basic), size := p.size + 1 }
  else p

/-- Write the characters with some code points, which are in ascending order; all those below
`reached` are written. -/
def Progress.write (cs : List Char) (basic : Nat) : List Nat → Nat → Progress → Progress
  | [], _, p => p
  | n :: ns, reached, p =>
    let p := { p with distance := p.distance + (n - reached) * (p.size + 1) }
    let p := cs.foldl (pass basic n) p
    write cs basic ns (n + 1) { p with distance := p.distance + 1 }

/-- A number among others in ascending order, once. -/
def insertOnce (n : Nat) : List Nat → List Nat
  | [] => [n]
  | m :: ms => if n < m then n :: m :: ms else if n = m then m :: ms else m :: insertOnce n ms

def encode (cs : List Char) : List Char :=
  let basic := cs.filter (·.toNat < 128)
  let others := (cs.filter (128 ≤ ·.toNat)).foldl (fun ns c => insertOnce c.toNat ns) []
  let p := Progress.write cs basic.length others 128 ⟨[], 0, 72, basic.length⟩
  basic ++ (if basic.isEmpty then [] else ['-']) ++ p.written

/-! ### Reading -/

/-- Read a number and add it to `sum`; its next digit counts `weight` times. -/
def number? (bias : Nat) : List Char → Nat → Nat → Nat → Option (Nat × List Char)
  | [], _, _, _ => none
  | c :: cs, position, weight, sum => do
    let d ← digitValue? c
    let t := threshold position bias
    if d < t then some (sum + d * weight, cs)
    else number? bias cs (position + 36) (weight * (36 - t)) (sum + d * weight)

/-- Put characters among those that are done: the next one is at least `reached`, and its place is
counted from `position`. The first argument is no less than the number of digits. -/
def place? : Nat → Nat → Nat → Nat → List Char → List Char → Option (List Char)
  | _, _, _, _, done, [] => some done
  | 0, _, _, _, _, _ => none
  | fuel + 1, bias, reached, position, done, cs => do
    let (sum, rest) ← number? bias cs 36 1 position
    let size := done.length + 1
    let n := reached + sum / size
    if !decide n.isValidChar then none
    place? fuel (adapt (sum - position) size false) n (sum % size + 1)
      (done.insertIdx (sum % size) (Char.ofNat n)) rest

def placeAll? (done cs : List Char) : Option (List Char) :=
  if cs.isEmpty then some done
  else do
    let (sum, rest) ← number? 72 cs 36 1 0
    let size := done.length + 1
    let n := 128 + sum / size
    if !decide n.isValidChar then none
    place? cs.length (adapt sum size true) n (sum % size + 1)
      (done.insertIdx (sum % size) (Char.ofNat n)) rest

def decode? (cs : List Char) : Option (List Char) :=
  match cs.reverse.span (· != '-') with
  | (others, _ :: basic) => placeAll? basic.reverse others.reverse
  | (others, []) => placeAll? [] others.reverse

end ChatFlow.Host.Punycode
