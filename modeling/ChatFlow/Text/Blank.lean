/-!
# Blank characters

White space of every script: the controls that move the cursor, the separators between lines,
paragraphs and records, and the spaces of every width.
-/

namespace ChatFlow.Text

def isBlank (c : Char) : Bool :=
  let n := c.toNat
  (9 ≤ n && n ≤ 13) || (28 ≤ n && n ≤ 32) || n == 0x85 || n == 0xa0 || n == 0x1680 ||
    (0x2000 ≤ n && n ≤ 0x200a) || n == 0x2028 || n == 0x2029 || n == 0x202f || n == 0x205f ||
    n == 0x3000

/-- White space around a number: the four separators of records are not part of it. -/
def isNumberBlank (c : Char) : Bool := isBlank c && !(28 ≤ c.toNat && c.toNat ≤ 31)

/-- Drop what satisfies `p` at both ends. -/
def stripChars (p : Char → Bool) (cs : List Char) : List Char :=
  ((cs.dropWhile p).reverse.dropWhile p).reverse

/-- The text without the white space at its ends. -/
def strip (s : String) : String := String.ofList (stripChars isBlank s.toList)

def allBlank (s : String) : Bool := s.toList.all isBlank

end ChatFlow.Text
