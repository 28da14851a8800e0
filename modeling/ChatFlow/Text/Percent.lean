import ChatFlow.Text.Hex
import ChatFlow.Text.Utf8

/-!
# Percent escapes

`quoteWith` writes a text in ASCII characters that are safe where it is to stand: any other one
becomes its bytes in UTF-8, each as a percent sign and two hexadecimal digits. `unquote` reads such
escapes; a percent sign that begins none is left alone.
-/

namespace ChatFlow.Text

def isUnreserved (c : Char) : Bool := c.isAlphanum || c == '-' || c == '.' || c == '_' || c == '~'

/-- A hexadecimal digit for a number below sixteen, in capitals. -/
def capitalHex (n : Nat) : Char := Char.ofNat (if n < 10 then 48 + n else 55 + n)

def escapeByte (b : UInt8) : List Char :=
  ['%', capitalHex (b.toNat / 16), capitalHex (b.toNat % 16)]

def quoteWith (isSafe : Char → Bool) (cs : List Char) : List Char :=
  (points cs).flatMap fun n =>
    let c := Char.ofNat n
    if isUnreserved c || isSafe c then [c] else (pointBytes n).flatMap escapeByte

def unquoteBytes : List Nat → List UInt8
  | 37 :: a :: b :: ns => match hexValue? (Char.ofNat a), hexValue? (Char.ofNat b) with
    | some x, some y => UInt8.ofNat (16 * x + y) :: unquoteBytes ns
    | _, _ => 37 :: unquoteBytes (a :: b :: ns)
  | n :: ns => pointBytes n ++ unquoteBytes ns
  | [] => []

def unquote (cs : List Char) : List Char := decodeUtf8 (unquoteBytes (points cs))

end ChatFlow.Text
