/-!
# Finding and replacing pieces of text

`occursIn` looks for a piece of text, `replaceChars` replaces its occurrences from left to right.
An occurrence that overlaps one already replaced is none.
-/

namespace ChatFlow.Text

/-- Whether `part` stands somewhere in a text. -/
def occursInChars (part : List Char) : List Char → Bool
  | [] => part.isEmpty
  | c :: cs => part.isPrefixOf (c :: cs) || occursInChars part cs

def occursIn (part s : String) : Bool := occursInChars part.toList s.toList

/-- Replace `part`, which is not empty, after passing over the first `skip` characters. -/
def replaceFrom (part new : List Char) (skip : Nat) : List Char → List Char
  | [] => []
  | c :: cs => match skip with
    | n + 1 => replaceFrom part new n cs
    | 0 =>
      if part.isPrefixOf (c :: cs) then new ++ replaceFrom part new (part.length - 1) cs
      else c :: replaceFrom part new 0 cs

/-- Replace every occurrence of `part`, which is not empty. -/
def replaceChars (part new cs : List Char) : List Char := replaceFrom part new 0 cs

end ChatFlow.Text
