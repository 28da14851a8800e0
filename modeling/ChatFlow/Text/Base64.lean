import ChatFlow.Text.CodePoint

/-!
# Bytes in letters

`base64` writes three bytes as four of sixty-four letters, and marks the end of bytes that do not
come in threes.
-/

namespace ChatFlow.Text

def base64Letter (n : Nat) : Char :=
  if n < 26 then Char.ofNat (65 + n)
  else if n < 52 then Char.ofNat (71 + n)
  else if n < 62 then Char.ofNat (n - 4)
  else if n = 62 then '+' else '/'

def base64Chars : List UInt8 → List Char
  | [] => []
  | [a] =>
    let n := a.toNat * 16
    [base64Letter (n / 64), base64Letter (n % 64), '=', '=']
  | [a, b] =>
    let n := (a.toNat * 256 + b.toNat) * 4
    [base64Letter (n / 4096), base64Letter (n / 64 % 64), base64Letter (n % 64), '=']
  | a :: b :: c :: bs =>
    let n := (a.toNat * 256 + b.toNat) * 256 + c.toNat
    base64Letter (n / 262144) :: base64Letter (n / 4096 % 64) :: base64Letter (n / 64 % 64) ::
      base64Letter (n % 64) :: base64Chars bs

def base64 (s : String) : String := String.ofList (base64Chars (utf8 s))

end ChatFlow.Text
