import ChatFlow.Text.Utf8

/-!
# Wide characters

Characters that take two bytes or four. `pairs` and `quads` join the bytes, in either order;
`decodePairs` and `decodeQuads` read the numbers as characters, with one replacement character for
each number that is none and for bytes left over at the end.
-/

namespace ChatFlow.Text

def joinBytes (bigEndian : Bool) (bytes : List UInt8) : Nat :=
  (if bigEndian then bytes else bytes.reverse).foldl (fun n b => 256 * n + b.toNat) 0

/-- The numbers of two bytes each, and whether a byte is left over. -/
def pairs (bigEndian : Bool) : List UInt8 → List Nat × Bool
  | [] => ([], false)
  | [_] => ([], true)
  | a :: b :: bs =>
    let (ns, isOpen) := pairs bigEndian bs
    (joinBytes bigEndian [a, b] :: ns, isOpen)

/-- The numbers of four bytes each, and whether bytes are left over. -/
def quads (bigEndian : Bool) : List UInt8 → List Nat × Bool
  | [] => ([], false)
  | a :: b :: c :: d :: bs =>
    let (ns, isOpen) := quads bigEndian bs
    (joinBytes bigEndian [a, b, c, d] :: ns, isOpen)
  | _ => ([], true)

def leftOver (isOpen : Bool) : List Char := if isOpen then [replacement] else []

/-- The characters of a number, which must not be half a pair. -/
def wholePoint (n : Nat) : List Char :=
  if isHalf n || n ≥ 0x110000 then [replacement] else ofPoint n

/-- The characters of numbers of two bytes, of which some belong together. -/
def decodePairs (isOpen : Bool) : List Nat → List Char
  | [] => leftOver isOpen
  | [n] => if isLead n then [replacement] else wholePoint n ++ leftOver isOpen
  | n :: n' :: ns =>
    if isLead n && isTrail n' then ofPoint (paired n n') ++ decodePairs isOpen ns
    else wholePoint n ++ decodePairs isOpen (n' :: ns)

def decodeQuads (isOpen : Bool) (ns : List Nat) : List Char := ns.flatMap wholePoint ++ leftOver isOpen

end ChatFlow.Text
