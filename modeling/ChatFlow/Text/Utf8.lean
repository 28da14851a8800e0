import ChatFlow.Text.CodePoint

/-!
# Reading UTF-8

`decodeUtf8` reads bytes as characters. Where they are no UTF-8, the bytes that could have begun a
character become one replacement character, and reading goes on with the byte that does not fit.
`looseUtf8?` takes no such bytes, but halves of surrogate pairs that are written like characters.
-/

namespace ChatFlow.Text

/-- What stands for bytes that are no character. -/
def replacement : Char := '\ufffd'

/-- A character that is not complete: how many bytes are missing, the range of the next one, and
the number that those before stand for. -/
structure Incomplete where
  missing : Nat
  low : Nat
  high : Nat
  value : Nat

/-- What a first byte announces, if more bytes have to follow. -/
def Incomplete.start? (b : UInt8) : Option Incomplete :=
  let n := b.toNat
  if 0xc2 ≤ n && n ≤ 0xdf then some ⟨1, 0x80, 0xbf, n - 0xc0⟩
  else if 0xe0 ≤ n && n ≤ 0xef then
    some ⟨2, if n == 0xe0 then 0xa0 else 0x80, if n == 0xed then 0x9f else 0xbf, n - 0xe0⟩
  else if 0xf0 ≤ n && n ≤ 0xf4 then
    some ⟨3, if n == 0xf0 then 0x90 else 0x80, if n == 0xf4 then 0x8f else 0xbf, n - 0xf0⟩
  else none

/-- One more byte of a character, if it fits: the character, or what is still missing of it. -/
def Incomplete.extend? (p : Incomplete) (b : UInt8) : Option (List Char × Option Incomplete) :=
  if p.low ≤ b.toNat && b.toNat ≤ p.high then
    let value := p.value * 64 + b.toNat % 64
    some (if p.missing ≤ 1 then (ofPoint value, none)
      else ([], some ⟨p.missing - 1, 0x80, 0xbf, value⟩))
  else none

/-- Read the first byte of a character. -/
def firstByte (b : UInt8) : List Char × Option Incomplete :=
  if b < 0x80 then ([Char.ofNat b.toNat], none)
  else match Incomplete.start? b with
    | some p => ([], some p)
    | none => ([replacement], none)

def nextByte (state : Option Incomplete) (b : UInt8) : List Char × Option Incomplete :=
  match state with
  | none => firstByte b
  | some p => match p.extend? b with
    | some read => read
    | none =>
      let (cs, state) := firstByte b
      (replacement :: cs, state)

/-- Read bytes after those of a character that is not complete. -/
def decodeUtf8From (state : Option Incomplete) : List UInt8 → List Char
  | [] => if state.isSome then [replacement] else []
  | b :: bs =>
    let (cs, state) := nextByte state b
    cs ++ decodeUtf8From state bs

def decodeUtf8 (bytes : List UInt8) : List Char := decodeUtf8From none bytes

/-! ### Halves of pairs -/

/-- What a first byte announces where halves of pairs are written like characters. -/
def Incomplete.startLoose? (b : UInt8) : Option Incomplete :=
  (start? b).map fun p => if b == 0xed then { p with high := 0xbf } else p

/-- One more byte, if it fits. -/
def looseByte? (state : Option Incomplete) (b : UInt8) : Option (List Char × Option Incomplete) :=
  match state with
  | some p => p.extend? b
  | none =>
    if b < 0x80 then some ([Char.ofNat b.toNat], none)
    else (Incomplete.startLoose? b).map fun p => ([], some p)

def looseUtf8From? (state : Option Incomplete) : List UInt8 → Option (List Char)
  | [] => if state.isSome then none else some []
  | b :: bs => do
    let (cs, state) ← looseByte? state b
    return cs ++ (← looseUtf8From? state bs)

/-- Read bytes that are UTF-8, but for halves of pairs, which may be written like characters. -/
def looseUtf8? (bytes : List UInt8) : Option (List Char) := looseUtf8From? none bytes

end ChatFlow.Text
