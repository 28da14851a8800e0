import ChatFlow.Host.Composition
import ChatFlow.Host.Letters
import ChatFlow.Host.Punycode

/-!
# The labels of names

The name of a host consists of labels. `Label.isValid` says which labels there are: they hold
letters, digits and inner hyphens, some characters only next to certain others, and letters that
are written from right to left only if the whole label is. `Label.encode?` writes a label in ASCII.
-/

namespace ChatFlow.Host.Label

/-! ### Direction -/

inductive Direction where
  | leftToRight
  | rightToLeft
  | digit
  | arabicDigit
  /-- Over or under another character. -/
  | overlaid
  | neutral
  deriving DecidableEq, Repr

def Direction.of (n : Nat) : Direction :=
  if isWithin #[(48, 57), (1776, 1785)] n then digit
  else if isWithin #[(1632, 1641), (68912, 68921)] n then arabicDigit
  else if isWithin rightToLeftRanges n then rightToLeft
  else if isWithin overlaidRanges n then overlaid
  else if isWithin neutralRanges n then neutral
  else leftToRight

/-- Whether a label is written in one direction: if some of it runs from right to left, all of it
does, from its first character to the last one that is not written over another, and its digits
are of one kind. -/
def hasOneDirection (ds : List Direction) : Bool :=
  if ds.contains .rightToLeft || ds.contains .arabicDigit then
    ds.head? == some .rightToLeft && !ds.contains .leftToRight &&
      !(ds.contains .digit && ds.contains .arabicDigit) &&
      match (ds.reverse.dropWhile (· == .overlaid)).head? with
      | some d => d == .rightToLeft || d == .digit || d == .arabicDigit
      | none => false
  else true

/-! ### Characters -/

def isLetter (n : Nat) : Bool :=
  if n < 128 then (97 ≤ n && n ≤ 122) || (48 ≤ n && n ≤ 57) || n == 45
  else letterRuns.any fun (first, last, step) =>
    first ≤ n && n ≤ last && (n - first) % step == 0

/-- Whether one of some characters, after marks that do not count, joins its neighbour. -/
def joins (ranges : Array (Nat × Nat)) (ns : List Nat) : Bool :=
  match ns.dropWhile (isWithin transparentRanges) with
  | n :: _ => isWithin ranges n || isWithin bothJoiningRanges n
  | [] => false

/-- Whether the last of some characters, in reverse, is a mark that takes away a vowel. -/
def endsInVirama : List Nat → Bool
  | n :: _ => order n == 9
  | [] => false

/-- Whether a character that may not stand anywhere is at home between others. Those before it
stand in reverse. -/
def isAtHome (before : List Nat) (n : Nat) (after : List Nat) : Bool :=
  if n == 0x200c then
    endsInVirama before || (joins leftJoiningRanges before && joins rightJoiningRanges after)
  else if n == 0x200d then endsInVirama before
  else if n == 0xb7 then before.head? == some 108 && after.head? == some 108
  else if n == 0x375 then after.head?.any (isWithin greekRanges)
  else if n == 0x5f3 || n == 0x5f4 then before.head?.any (isWithin hebrewRanges)
  else if n == 0x30fb then
    (before ++ after).any fun m => m != 0x30fb && isWithin japaneseRanges m
  else if isWithin #[(0x660, 0x669)] n then !(before ++ after).any (isWithin #[(0x6f0, 0x6f9)])
  else if isWithin #[(0x6f0, 0x6f9)] n then !(before ++ after).any (isWithin #[(0x660, 0x669)])
  else false

/-- Whether all characters may stand where they do, after those before them, in reverse. -/
def allAtHome (before : List Nat) : List Nat → Bool
  | [] => true
  | n :: ns => (isLetter n || isAtHome before n ns) && allAtHome (n :: before) ns

/-! ### Labels -/

def maxName : Nat := 253

def maxLabel : Nat := 63

/-- Whether the hyphens of a label are inner ones, and none of them where a mark of encoding is. -/
def hasInnerHyphens (cs : List Char) : Bool :=
  cs.head? != some '-' && cs.getLast? != some '-' && (cs.drop 2).take 2 != ['-', '-']

def isValid (cs : List Char) : Bool :=
  let ns := cs.map Char.toNat
  !cs.isEmpty && cs.length ≤ maxName + 1 && isComposed ns && hasInnerHyphens cs &&
    !ns.head?.any (isWithin markRanges) && allAtHome [] ns &&
    hasOneDirection (ns.map Direction.of)

/-- The mark of a label that is encoded. -/
def mark : List Char := ['x', 'n', '-', '-']

def isPlain (cs : List Char) : Bool :=
  if mark.isPrefixOf cs then
    let code := cs.drop mark.length
    !code.isEmpty && code.getLast? != some '-' && (Punycode.decode? code).any isValid
  else isValid cs

def encode? (cs : List Char) : Option (List Char) :=
  let isAscii := cs.all (·.toNat < 128)
  let code := if isAscii then cs else mark ++ Punycode.encode cs
  if (if isAscii then isPlain cs else isValid cs) && code.length ≤ maxLabel then some code else none

/-! ### Names -/

def isDot (c : Char) : Bool := c == '.' || c == '\u3002' || c == '\uff0e' || c == '\uff61'

def pieces (isSeparator : Char → Bool) : List Char → List (List Char)
  | [] => [[]]
  | c :: cs => match pieces isSeparator cs with
    | [] => [[c]]
    | p :: ps => if isSeparator c then [] :: p :: ps else (c :: p) :: ps

/-- A name in ASCII; a dot at its end stays. -/
def encodeName? (cs : List Char) : Option (List Char) := do
  let labels := pieces isDot cs
  let isClosed := labels.getLast? == some []
  let labels := if isClosed then labels.dropLast else labels
  let codes ← labels.mapM encode?
  let name := ['.'].intercalate (if isClosed then codes ++ [[]] else codes)
  if name.length ≤ maxName + (if isClosed then 1 else 0) then some name else none

end ChatFlow.Host.Label
