import ChatFlow.Deflate

/-!
# Compressed files

A compressed file has a head, which may name the file and comment on it, and ends with a check sum and
the length of what was compressed. `gunzip` reads it. Like other compressed data, a file that ends
early gives what could be read so far.
-/

namespace ChatFlow.Deflate

/-! ### Check sums -/

def shiftRemainder (n : UInt32) : UInt32 :=
  if n &&& 1 == 1 then (n >>> 1) ^^^ 0xedb88320 else n >>> 1

def remainderAfter (n : UInt32) (b : UInt8) : UInt32 :=
  (List.range 8).foldl (fun n _ => shiftRemainder n) (n ^^^ b.toUInt32)

/-- The remainder of bytes that are taken for a polynomial. -/
def remainder (bytes : List UInt8) : Nat := (~~~ bytes.foldl remainderAfter 0xffffffff).toNat

/-- The number that bytes stand for, the lowest first. -/
def lowFirst (bytes : List UInt8) : Nat := bytes.foldr (fun b n => b.toNat + 256 * n) 0

/-! ### Heads -/

/-- What follows a field that tells its own length. -/
def afterExtra? : List UInt8 → Option (List UInt8)
  | a :: b :: bs => if bs.length < lowFirst [a, b] then none else some (bs.drop (lowFirst [a, b]))
  | _ => none

/-- What follows a field that a zero ends. -/
def afterName? : List UInt8 → Option (List UInt8)
  | [] => none
  | b :: bs => if b == 0 then some bs else afterName? bs

/-- What follows the fields that the flags of a head announce, unless the data ends before. -/
def afterFields? (flags : Nat) (bytes : List UInt8) : Option (List UInt8) := do
  let bytes ← if flags.testBit 2 then afterExtra? bytes else some bytes
  let bytes ← if flags.testBit 3 then afterName? bytes else some bytes
  if flags.testBit 4 then afterName? bytes else some bytes

/-- What follows the head of a file, unless the data ends before. -/
def afterHead? (bytes : List UInt8) : Except String (Option (List UInt8)) :=
  match bytes with
  | 0x1f :: 0x8b :: method :: flags :: bs =>
    let flags := flags.toNat
    if method != 8 then .error "unknown compression method"
    else if flags ≥ 32 then .error "unknown header flags set"
    else if bs.length < 6 then .ok none
    else match afterFields? flags (bs.drop 6) with
      | none => .ok none
      | some rest =>
        if flags.testBit 1 then match rest with
          | a :: b :: body =>
            let head := bytes.take (bytes.length - rest.length)
            if lowFirst [a, b] == remainder head % 65536 then .ok (some body)
            else .error "header crc mismatch"
          | _ => .ok none
        else .ok (some rest)
  | 0x1f :: 0x8b :: _ => .ok none
  | _ :: _ :: _ => .error "incorrect header check"
  | _ => .ok none

/-! ### Files -/

/-- Read a compressed file, or say why this is none. What follows its end is left alone. -/
def gunzip (bytes : List UInt8) : Except String (List UInt8) := do
  let some body ← afterHead? bytes | return []
  let (out, rest) ← inflate body
  let some (a :: b :: c :: d :: bs) := rest | return out
  if lowFirst [a, b, c, d] != remainder out then throw "incorrect data check"
  let w :: x :: y :: z :: _ := bs | return out
  if lowFirst [w, x, y, z] != out.length % Nat.pow 2 32 then throw "incorrect length check"
  return out

end ChatFlow.Deflate
