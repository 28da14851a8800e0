import ChatFlow.Schema.Issue

/-!
# What can go wrong

A `Fault` is the cause of a failed operation. The first few arise when a value of unknown shape is
read as an object or a list, the others belong to one part of the system each.
-/

namespace ChatFlow

inductive Fault where
  /-- Data does not have the shape that is asked for. -/
  | invalid (issues : List Schema.Issue)
  | notObject
  | wrongKind
  | missingKey
  | notJson
  | notText
  | oversizedNumber
  | tooDeep
  /-- A text holds what no encoding has bytes for. -/
  | unencodable
  /-- The codec of a charset fails on some bytes. -/
  | undecodable
  | notAddress
  /-- An address names nobody who could be asked. -/
  | nobodyAddressed
  | notLevel
  | notPath
  /-- A workflow cannot be loaded, for the reason given. -/
  | unloadable (reason : String)
  /-- A workflow does not have the shape of a workflow. -/
  | malformed (issues : List Schema.Issue)
  /-- A message was not delivered: what was reported, and under which code. -/
  | undelivered (message : String) (code : String)
  /-- A message cannot be offered as it is asked for, for the reason given. -/
  | unfit (reason : String)
  | timeOverflow
  | noCalendar
  /-- A message holds a number that JSON has no text for. -/
  | unwritable
  | storeDown
  | breakdown
  | unsupported
  deriving DecidableEq, Repr

/-- Whether a fault is told in words from outside, just as they came. -/
def Fault.isQuote : Fault → Bool
  | unloadable _ => true
  | undelivered .. => true
  | _ => false

/-! ### Outcomes -/

section

variable {α β : Type}

theorem ok_of_bind {x : Except Fault α} {g : α → Except Fault β} {b : β}
    (h : x >>= g = .ok b) : ∃ a, x = .ok a ∧ g a = .ok b := by
  cases x with
  | error f => cases h
  | ok a => exact ⟨a, rfl, h⟩

theorem ok_of_toOption {x : Except Fault α} {a : α} (h : x.toOption = some a) : x = .ok a := by
  cases x with
  | error f => cases h
  | ok b => cases h; rfl

theorem mapM_of_ok {f : α → Except Fault β} {g : α → β} {as : List α}
    (h : ∀ a ∈ as, f a = .ok (g a)) : as.mapM f = .ok (as.map g) := by
  induction as with
  | nil => rfl
  | cons a as ih =>
    rw [List.mapM_cons, h a List.mem_cons_self, ih fun b hb => h b (List.mem_cons_of_mem _ hb)]
    rfl

end

end ChatFlow
