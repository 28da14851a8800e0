import ChatFlow.Step.Question
import ChatFlow.Text.Blank
import ChatFlow.Text.CodePoint

/-!
# Answers

What a question offers and what it takes. Options are offered as buttons if they are few and short,
otherwise as the rows of a list, whose titles hold the first characters of an option only; such a
title then stands for the first option that it is cut from.
-/

namespace ChatFlow.Step

def maxButtons : Nat := 3

def buttonTitleLength : Nat := 20

def rowTitleLength : Nat := 24

def fitsButtons (options : List String) : Bool :=
  decide (options.length ≤ maxButtons) &&
    options.all fun o => decide (Text.size o ≤ buttonTitleLength)

def rowLabel (option : String) : String := Text.clip rowTitleLength option

namespace Question

def selected? (q : Question) (reply : String) : Option String :=
  if q.options.contains reply then some reply
  else if fitsButtons q.options then none
  else q.options.find? fun o => rowLabel o == reply

def accepts (q : Question) (reply : String) : Except Fault Bool :=
  match q.form with
  | .multiple => .ok (q.selected? reply).isSome
  | .listRow => do return (← q.rowTitles).any fun t => t.text? == some reply
  | .text => .ok (!Text.allBlank reply)
  | .other _ => .ok false

/-- What is kept of a reply: the option that it chooses, or the reply itself. -/
def kept (q : Question) (reply : String) : String :=
  match q.form with
  | .multiple => (q.selected? reply).getD reply
  | _ => reply

end Question

end ChatFlow.Step
