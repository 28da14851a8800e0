import ChatFlow.Text.CodePoint
import ChatFlow.Text.Hex
import ChatFlow.Text.Printable

/-!
# Texts in quotes

`quoted` shows a text as one line in single quotes, or in double quotes if it holds single quotes
only. The quote in use and the backslash get a backslash before them, and what cannot be printed
is written by its code point.
-/

namespace ChatFlow.Text

def quoteFor (cs : List Char) : Char :=
  if cs.contains '\'' && !cs.contains '"' then '"' else '\''

/-- One character between quotes `q`. -/
def quotedChar (q c : Char) : String :=
  if c == q || c == '\\' then String.ofList ['\\', c]
  else if c == '\n' then "\\n"
  else if c == '\r' then "\\r"
  else if c == '\t' then "\\t"
  else if isPrintable c then String.singleton c
  else if c.toNat < 0x100 then "\\x" ++ hex 2 c.toNat
  else if c.toNat < 0x10000 then "\\u" ++ hex 4 c.toNat
  else "\\U" ++ hex 8 c.toNat

/-- One code point between quotes `q`. -/
def quotedPoint (q : Char) (n : Nat) : String :=
  if isHalf n then "\\u" ++ hex 4 n else quotedChar q (Char.ofNat n)

def quoted (s : String) : String :=
  let q := quoteFor s.toList
  String.singleton q ++ String.join ((points s.toList).map (quotedPoint q)) ++ String.singleton q

/-- A text in quotes, or `None` for no text. -/
def quotedOption : Option String → String
  | some s => quoted s
  | none => "None"

/-- A text as it is, or `None` for no text. -/
def shown : Option String → String
  | some s => s
  | none => "None"

end ChatFlow.Text
