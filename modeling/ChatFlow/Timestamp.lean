import ChatFlow.Decimal.Binary64
import ChatFlow.Fault
import ChatFlow.Json
import ChatFlow.Text.Integer

/-!
# Timestamps

Messages are stamped with seconds since the start of 1970. `Timestamp.seconds?` reads such a stamp
from whatever stands in its place, `Timestamp.text?` writes it as a date and a time of day.
-/

namespace ChatFlow.Timestamp

/-! ### Reading -/

/-- The seconds that a value stands for, if it stands for any; fractions do not count. -/
def seconds? : Json → Except Fault (Option Int)
  | .int n => .ok (some n)
  | .bool b => .ok (some (if b then 1 else 0))
  | .str s => .ok (Text.integer? s)
  | .float x => match Binary64.Parts.of x with
    | .infinite _ => .error .timeOverflow
    | _ => .ok (Binary64.truncate? x)
  | _ => .ok none

/-! ### Writing -/

structure Date where
  year : Int
  month : Int
  day : Int
  deriving DecidableEq, Repr

/-- The date some days after the start of 1970. Years are counted from March here, so that a leap
day is the last of its year, and in cycles of four hundred years. -/
def Date.ofDays (days : Int) : Date :=
  let z := days + 719468
  let era := z / 146097
  let doe := z % 146097
  let yoe := (doe - doe / 1460 + doe / 36524 - doe / 146096) / 365
  let doy := doe - (365 * yoe + yoe / 4 - yoe / 100)
  let mp := (5 * doy + 2) / 153
  let day := doy - (153 * mp + 2) / 5 + 1
  let month := if mp < 10 then mp + 3 else mp - 9
  ⟨yoe + era * 400 + if month ≤ 2 then 1 else 0, month, day⟩

/-- A number in at least `width` digits. -/
def padded (width : Nat) (n : Int) : String :=
  let ds := (toString n).toList
  String.ofList (List.replicate (width - ds.length) '0' ++ ds)

/-- A date and a time of day, in universal time. -/
def write (n : Int) : String :=
  let date := Date.ofDays (n / 86400)
  let time := n % 86400
  padded 4 date.year ++ "-" ++ padded 2 date.month ++ "-" ++ padded 2 date.day ++ "T" ++
    padded 2 (time / 3600) ++ ":" ++ padded 2 (time / 60 % 60) ++ ":" ++ padded 2 (time % 60) ++
    "+00:00"

/-- The text of a time. Years have up to four digits; a time in another year has no text, and one
too far away is refused. -/
def text? (n : Int) : Except Fault (Option String) :=
  if n < -(Nat.pow 2 63) || Nat.pow 2 63 ≤ n then .error .timeOverflow
  else if n ≤ -67768040609740801 || 67768036191676800 ≤ n then .error .noCalendar
  else if n < -62135596800 || 253402300800 ≤ n then .ok none
  else .ok (some (write n))

def format (v : Json) : Except Fault (Option String) := do
  match ← seconds? v with
  | some n => text? n
  | none => return none

end ChatFlow.Timestamp
