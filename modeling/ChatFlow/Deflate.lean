import ChatFlow.Deflate.Code

/-!
# Compressed data

`inflate` reads data in blocks, of which each is stored as it is or consists of symbols for bytes
and for repetitions of earlier bytes. Data that ends early gives what could be read so far.
`expand` reads data with or without a frame, which has a head and a check sum.
-/

namespace ChatFlow.Deflate

def bitsOf (bytes : List UInt8) : Bits :=
  bytes.flatMap fun b => (List.range 8).map b.toNat.testBit

/-- What is read so far, and what is left. -/
structure Progress where
  out : Array UInt8
  bits : Bits

abbrev Outcome := Progress × Option Stop

/-! ### Symbols -/

def endOfBlock : Nat := 256

/-- The shortest repetition that a symbol stands for, and how many bits tell more. -/
def lengthOf (symbol : Nat) : Nat × Nat :=
  let s := symbol - 257
  if s < 8 then (3 + s, 0)
  else if s == 28 then (258, 0)
  else
    let extra := (s - 4) / 4
    (3 + (4 + s % 4) * Nat.pow 2 extra, extra)

/-- The shortest distance that a symbol stands for, and how many bits tell more. -/
def distanceOf (symbol : Nat) : Nat × Nat :=
  if symbol < 4 then (1 + symbol, 0)
  else
    let extra := symbol / 2 - 1
    (1 + (2 + symbol % 2) * Nat.pow 2 extra, extra)

/-- Append bytes that stand some way back, one after the other. -/
def repeated (distance : Nat) : Nat → Array UInt8 → Array UInt8
  | 0, out => out
  | n + 1, out => repeated distance n (out.push (out.getD (out.size - distance) 0))

def readRepetition (distances : Code) (symbol : Nat) (bs : Bits) :
    Except Stop (Nat × Nat × Bits) := do
  if symbol > 285 then throw (.flawed "invalid literal/length code")
  let (length, extra) := lengthOf symbol
  let (more, bs) ← readNumber extra bs
  let length := length + more
  let (symbol, bs) ← distances.read "invalid distance code" bs
  if symbol > 29 then throw (.flawed "invalid distance code")
  let (distance, extra) := distanceOf symbol
  let (more, bs) ← readNumber extra bs
  return (length, distance + more, bs)

/-- Read the symbols of a block. Each of them takes one bit at least, which the first argument
counts. -/
def readSymbols (lengths distances : Code) : Nat → Progress → Outcome
  | 0, p => (p, some .exhausted)
  | fuel + 1, p =>
    match lengths.read "invalid literal/length code" p.bits with
    | .error stop => (p, some stop)
    | .ok (symbol, bits) =>
      if symbol < endOfBlock then
        readSymbols lengths distances fuel ⟨p.out.push (UInt8.ofNat symbol), bits⟩
      else if symbol == endOfBlock then ({ p with bits }, none)
      else match readRepetition distances symbol bits with
        | .error stop => (p, some stop)
        | .ok (length, distance, bits) =>
          if distance > p.out.size then (p, some (.flawed "invalid distance too far back"))
          else readSymbols lengths distances fuel ⟨repeated distance length p.out, bits⟩

/-! ### Blocks -/

def copyBytes : Nat → Progress → Outcome
  | 0, p => (p, none)
  | n + 1, p => match readNumber 8 p.bits with
    | .error stop => (p, some stop)
    | .ok (b, bits) => copyBytes n ⟨p.out.push (UInt8.ofNat b), bits⟩

def readStored (p : Progress) : Outcome :=
  let bits := p.bits.drop (p.bits.length % 8)
  match readNumber 16 bits with
  | .error stop => (p, some stop)
  | .ok (size, bits) => match readNumber 16 bits with
    | .error stop => (p, some stop)
    | .ok (check, bits) =>
      if size + check == 65535 then copyBytes size { p with bits }
      else (p, some (.flawed "invalid stored block lengths"))

/-- The lengths of the words of the fixed code for bytes and repetitions. -/
def fixedLengths : List Nat :=
  List.replicate 144 8 ++ List.replicate 112 9 ++ List.replicate 24 7 ++ List.replicate 8 8

def codeOf (lengths : List Nat) : Code := (Code.ofLengths? lengths true).getD ⟨[], #[]⟩

/-- The symbols for lengths of words, in the order in which their own lengths are given. -/
def lengthOrder : List Nat := [16, 17, 18, 0, 8, 7, 9, 6, 10, 5, 11, 4, 12, 3, 13, 2, 14, 1, 15]

def readTriples : Nat → Bits → Except Stop (List Nat × Bits)
  | 0, bs => .ok ([], bs)
  | k + 1, bs => do
    let (n, bs) ← readNumber 3 bs
    let (ns, bs) ← readTriples k bs
    return (n :: ns, bs)

/-- Read the lengths of words up to a total; those read so far stand in reverse. Each symbol takes
one bit at least, which the first argument counts. -/
def readLengths (code : Code) (total : Nat) :
    Nat → List Nat → Bits → Except Stop (List Nat × Bits)
  | 0, _, _ => .error .exhausted
  | fuel + 1, done, bs => do
    if done.length ≥ total then return (done.reverse, bs)
    let (symbol, bs) ← if code.symbols.isEmpty then (fun (_, bs) => (0, bs)) <$> readBit bs
      else code.read "invalid code lengths set" bs
    if symbol < 16 then readLengths code total fuel (symbol :: done) bs
    else
      let (least, extra) := if symbol == 16 then (3, 2) else if symbol == 17 then (3, 3) else (11, 7)
      let (more, bs) ← readNumber extra bs
      let last := if symbol == 16 then done.head? else some 0
      match last with
      | some n =>
        if done.length + least + more > total then throw (.flawed "invalid bit length repeat")
        else readLengths code total fuel (List.replicate (least + more) n ++ done) bs
      | none => throw (.flawed "invalid bit length repeat")

def readCodes (bs : Bits) : Except Stop (Code × Code × Bits) := do
  if bs.length < 14 then throw .exhausted
  let (a, bs) ← readNumber 5 bs
  let (b, bs) ← readNumber 5 bs
  let (c, bs) ← readNumber 4 bs
  let (a, b, c) := (a + 257, b + 1, c + 4)
  if a > 286 || b > 30 then throw (.flawed "too many length or distance symbols")
  let (ns, bs) ← readTriples c bs
  let given := lengthOrder.zip ns
  let own := (List.range 19).map fun s => ((given.find? (·.1 == s)).map (·.2)).getD 0
  let some code := Code.ofLengths? own false | throw (.flawed "invalid code lengths set")
  let (all, bs) ← readLengths code (a + b) (bs.length + 1) [] bs
  if all.getD endOfBlock 0 == 0 then throw (.flawed "invalid code -- missing end-of-block")
  let some lengths := Code.ofLengths? (all.take a) true
    | throw (.flawed "invalid literal/lengths set")
  let some distances := Code.ofLengths? (all.drop a) true
    | throw (.flawed "invalid distances set")
  return (lengths, distances, bs)

def readBlock (kind : Nat) (p : Progress) : Outcome :=
  match kind with
  | 0 => readStored p
  | 1 => readSymbols (codeOf fixedLengths) (codeOf (List.replicate 32 5)) (p.bits.length + 1) p
  | 2 => match readCodes p.bits with
    | .ok (lengths, distances, bits) =>
      readSymbols lengths distances (bits.length + 1) { p with bits }
    | .error stop => (p, some stop)
  | _ => (p, some (.flawed "invalid block type"))

/-- Read blocks up to the last one. Each of them takes three bits at least. -/
def readBlocks : Nat → Progress → Outcome
  | 0, p => (p, some .exhausted)
  | fuel + 1, p =>
    if p.bits.length < 3 then (p, some .exhausted)
    else
      let isLast := p.bits.head? == some true
      let kind := ((p.bits.drop 1).take 2).foldr (fun b n => b.toNat + 2 * n) 0
      match readBlock kind { p with bits := p.bits.drop 3 } with
      | (p, none) => if isLast then (p, none) else readBlocks fuel p
      | stopped => stopped

/-- Read compressed data: the bytes, or why there are none, and what follows the last block if it
has been reached. -/
def inflate (bytes : List UInt8) : Except String (List UInt8 × Option (List UInt8)) :=
  let bits := bitsOf bytes
  match readBlocks (bits.length + 1) ⟨#[], bits⟩ with
  | (_, some (.flawed reason)) => .error reason
  | (p, some .exhausted) => .ok (p.out.toList, none)
  | (p, none) => .ok (p.out.toList, some (bytes.drop (bytes.length - p.bits.length / 8)))

/-! ### Frames -/

def checkSum (bytes : List UInt8) : Nat :=
  let (a, b) := bytes.foldl (fun (a, b) c =>
    let a := (a + c.toNat) % 65521
    (a, (b + a) % 65521)) (1, 0)
  b * 65536 + a

/-- Read data in a frame, or say why this is none. -/
def unframe : List UInt8 → Except String (List UInt8)
  | a :: b :: bs =>
    let a := a.toNat
    let b := b.toNat
    if (256 * a + b) % 31 != 0 then .error "incorrect header check"
    else if a % 16 != 8 then .error "unknown compression method"
    else if a / 16 > 7 then .error "invalid window size"
    else if b.testBit 5 then if bs.length < 4 then .ok [] else .error "need dictionary"
    else do
      let (out, rest) ← inflate bs
      match rest with
      | some (w :: x :: y :: z :: _) =>
        if [w, x, y, z].foldl (fun n b => 256 * n + b.toNat) 0 == checkSum out then return out
        else throw "incorrect data check"
      | _ => return out
  | _ => .ok []

/-- Read data in a frame or without one. -/
def expand (bytes : List UInt8) : Except String (List UInt8) :=
  match unframe bytes with
  | .ok out => .ok out
  | .error _ => (inflate bytes).map (·.1)

end ChatFlow.Deflate
