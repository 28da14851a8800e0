import ChatFlow.Decimal.Binary64

/-!
# Time

An instant counts seconds from an arbitrary start. A clock runs on whole seconds until it is moved
by a part of a second; from then on its readings are doubles. The time between whole seconds is
exact, any other span of time is a double.
-/

namespace ChatFlow

structure Instant where
  seconds : Rat
  /-- Whether the clock runs on whole seconds. -/
  isWhole : Bool
  /-- Whether this is the double that stands for a zero with a minus. -/
  isNegativeZero : Bool := false
  deriving DecidableEq

namespace Instant

def ofInt (n : Int) : Instant := ⟨n, true, false⟩

/-- The reading that a double shows; `none` if it is not finite. -/
def ofFloat? (x : Float) : Option Instant :=
  (Binary64.toRat? x).map fun r => ⟨r, false, r == 0 && x.toBits != 0⟩

def rounded (t : Instant) : Rat := if t.isWhole then Binary64.rounded t.seconds else t.seconds

/-- The time that passed from one reading to a later one. -/
def since (now last : Instant) : Rat :=
  if now.isWhole && last.isWhole then now.seconds - last.seconds
  else Binary64.rounded (now.rounded - last.rounded)

/-- The reading after some more time; the span tells itself whether it is whole. -/
def advance (t span : Instant) : Instant :=
  if t.isWhole && span.isWhole then ⟨t.seconds + span.seconds, true, false⟩
  else ⟨Binary64.rounded (t.rounded + span.rounded), false,
    t.isNegativeZero && span.isNegativeZero⟩

end Instant

end ChatFlow
