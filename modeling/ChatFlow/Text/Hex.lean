/-!
# Hexadecimal digits

`hex` writes a number in hexadecimal digits, `hexValue?` gives the value of one of them.
-/

namespace ChatFlow.Text

/-- A hexadecimal number in at least `width` digits. -/
def hex (width n : Nat) : String :=
  let ds := Nat.toDigits 16 n
  String.ofList (List.replicate (width - ds.length) '0' ++ ds)

def hexValue? (c : Char) : Option Nat :=
  if c.isDigit then some (c.toNat - 48)
  else if 'a' ≤ c && c ≤ 'f' then some (c.toNat - 87)
  else if 'A' ≤ c && c ≤ 'F' then some (c.toNat - 55)
  else none

end ChatFlow.Text
