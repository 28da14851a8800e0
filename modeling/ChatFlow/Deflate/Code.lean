/-!
# Canonical codes

A code gives every symbol a word of bits, none of which begins another. The lengths of the words
tell the code: shorter words come first, and words of one length are in the order of their symbols.
`Code.ofLengths?` makes the code of lengths, `Code.read` reads a symbol.
-/

namespace ChatFlow.Deflate

inductive Stop where
  | exhausted
  | flawed (reason : String)
  deriving DecidableEq, Repr

abbrev Bits := List Bool

def readBit : Bits → Except Stop (Nat × Bits)
  | b :: bs => .ok (b.toNat, bs)
  | [] => .error .exhausted

def readNumber : Nat → Bits → Except Stop (Nat × Bits)
  | 0, bs => .ok (0, bs)
  | k + 1, bs => do
    let (b, bs) ← readBit bs
    let (n, bs) ← readNumber k bs
    return (b + 2 * n, bs)

/-- A code: how many words there are of each length from one on, and their symbols. -/
structure Code where
  counts : List Nat
  symbols : Array Nat
  deriving DecidableEq, Repr

namespace Code

/-- How many words of the next length may follow, if there is room for all words so far. -/
def room? (counts : List Nat) : Option Nat :=
  counts.foldlM (fun room n => if n ≤ 2 * room then some (2 * room - n) else none) 1

/-- The code of symbols whose words have these lengths; a symbol of length zero has none. The words
have to use up all bits, unless the code is `isPartial` and has a single word of one bit. A code
without words reads one bit and fails. -/
def ofLengths? (lengths : List Nat) (isPartial : Bool) : Option Code :=
  let longest := max 1 (lengths.foldl max 0)
  let ofLength (n : Nat) : List Nat :=
    (lengths.zipIdx.filter fun (m, _) => m == n).map (·.2)
  let groups := (List.range longest).map fun n => ofLength (n + 1)
  let code : Code := ⟨groups.map (·.length), groups.flatten.toArray⟩
  match room? code.counts with
  | some 0 => some code
  | some _ => if code.symbols.isEmpty || (isPartial && longest == 1) then some code else none
  | none => none

/-- Read a symbol, given the number that the bits so far stand for, the first number of the next
length, and the place of its symbol. -/
def readFrom (symbols : Array Nat) (flaw : String) :
    List Nat → Nat → Nat → Nat → Bits → Except Stop (Nat × Bits)
  | [], _, _, _, _ => .error (.flawed flaw)
  | n :: ns, word, first, place, bs => do
    let (b, bs) ← readBit bs
    let word := 2 * word + b
    if word < first + n then return (symbols.getD (place + (word - first)) 0, bs)
    else readFrom symbols flaw ns word (2 * (first + n)) (place + n) bs

def read (c : Code) (flaw : String) (bs : Bits) : Except Stop (Nat × Bits) :=
  readFrom c.symbols flaw c.counts 0 0 0 bs

end Code

end ChatFlow.Deflate
