import ChatFlow.Fault
import ChatFlow.Host.Label
import ChatFlow.Text.Case
import ChatFlow.Text.Percent

/-!
# Hosts

The host of an address is a number of four bytes, a number of eight groups in brackets, or a name.
`Host.ofChars` writes it in its one form in ASCII, without the brackets.
-/

namespace ChatFlow.Host

/-! ### Numbers -/

/-- How far a host can be read as four rows of digits with one character between them: an odd
number is the row that it stands in, counted twice, an even one that a row has to begin. -/
def advance (states : List Nat) (c : Char) : List Nat :=
  (List.range 8).filter fun t => states.any fun s =>
    if s % 2 == 0 then t == s + 1 && c.isDigit
    else (t == s && c.isDigit) || t == s + 1

/-- Whether a host looks like a number of four bytes. -/
def looksNumeric (cs : List Char) : Bool := (cs.foldl advance [0]).contains 7

def isByte (cs : List Char) : Bool :=
  !cs.isEmpty && cs.length ≤ 3 && cs.all Char.isDigit && (cs.length == 1 || cs.head? != some '0') &&
    cs.foldl (fun n c => 10 * n + (c.toNat - 48)) 0 ≤ 255

def isNumber (cs : List Char) : Bool :=
  let parts := Label.pieces (· == '.') cs
  parts.length == 4 && parts.all isByte

def isGroup (cs : List Char) : Bool :=
  !cs.isEmpty && cs.length ≤ 4 && cs.all fun c => (Text.hexValue? c).isSome

/-- Whether parts between colons are eight groups, of which a row of zeros may be left out. -/
def areGroups (parts : List (List Char)) : Bool :=
  let inner := (parts.drop 1).dropLast
  let gaps := (inner.filter (·.isEmpty)).length
  if parts.length < 3 || parts.length > 9 || gaps > 1 then false
  else if gaps == 0 then parts.length == 8 && parts.all isGroup
  else
    let before := parts.takeWhile (!·.isEmpty)
    let start := if parts.head? == some [] then [] else before
    let close := (parts.reverse.takeWhile (!·.isEmpty)).reverse
    let hasOpenStart := parts.head? == some [] && parts[1]? != some []
    let hasOpenEnd := parts.getLast? == some [] && parts.dropLast.getLast? != some []
    !hasOpenStart && !hasOpenEnd && (start ++ close).all isGroup &&
      start.length + close.length ≤ 7

/-- The parts of a number of eight groups; the last two may be written as four bytes. -/
def groupParts? (cs : List Char) : Option (List (List Char)) :=
  let parts := Label.pieces (· == ':') cs
  match parts.getLast? with
  | some last =>
    if parts.length < 3 then none
    else if last.contains '.' then
      if isNumber last then some (parts.dropLast ++ [['0'], ['0']]) else none
    else some parts
  | none => none

/-- Whether a text is a number of eight groups, perhaps with a zone after a percent sign. -/
def isLongNumber (cs : List Char) : Bool :=
  let (number, zone) := cs.span (· != '%')
  let hasZone := match zone with
    | [] => true
    | _ :: zone => !zone.isEmpty && !zone.contains '%'
  hasZone && (groupParts? number).any areGroups

/-! ### Hosts of all kinds -/

def isSafe (c : Char) : Bool := "!$&'()*+,;=\"\x60\x7b\x7d%|\\".toList.contains c

/-- A host as it was given in its one form; an empty one is none. -/
def ofChars (cs : List Char) : Except Fault (List Char) :=
  if looksNumeric cs then if isNumber cs then .ok cs else .error .notAddress
  else if cs.head? == some '[' && cs.getLast? == some ']' && cs.length ≥ 2 then
    let number := (cs.drop 1).dropLast
    if isLongNumber number then .ok number else .error .notAddress
  else if cs.all (·.toNat < 128) then .ok (Text.quoteWith isSafe (cs.map Char.toLower))
  else match Label.encodeName? (Text.lowerFrom [] cs) with
    | some name => .ok name
    | none => .error .notAddress

end ChatFlow.Host
