import ChatFlow.Text.Blank
import ChatFlow.Text.Digit

/-!
# Integers in texts

`integer?` reads an integer from a text: white space around it does not count, it may have a sign,
and single underscores may stand between its digits, which may be those of any script.
-/

namespace ChatFlow.Text

/-- The longest row of digits that is read as a number. -/
def maxDigits : Nat := 4300

/-- Decimal digits of any script with single underscores between them, after those before. -/
def digits? (before : List Nat) : List Char → Option (List Nat)
  | [] => some before.reverse
  | '_' :: c :: cs => match digitValue? c with
    | some d => digits? (d :: before) cs
    | none => none
  | c :: cs => match digitValue? c with
    | some d => digits? (d :: before) cs
    | none => none

/-- The text of an integer, with a sign or none. -/
def integer? (s : String) : Option Int := do
  let (negative, cs) := match stripChars isNumberBlank s.toList with
    | '-' :: r => (true, r)
    | '+' :: r => (false, r)
    | r => (false, r)
  if cs.head? == some '_' then none
  let ds ← digits? [] cs
  if ds.isEmpty || ds.length > maxDigits then none
  let n : Nat := ds.foldl (fun n d => 10 * n + d) 0
  return if negative then -(n : Int) else n

end ChatFlow.Text
