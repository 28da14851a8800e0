import ChatFlow.Json.Access
import ChatFlow.Step.Target
import ChatFlow.Text.Search

/-!
# Questions

A question is a prompt and the form of its answer: free text, one of some options, or a row of a
list that the question brings along as a ready message. `Question.rowTitles` reads the titles of
the rows off that message, whose inner shape nobody has checked before.
-/

namespace ChatFlow.Step

open Schema

inductive AnswerForm where
  | text
  | multiple
  | listRow
  | other (name : String)
  deriving DecidableEq, Repr

namespace AnswerForm

def name : AnswerForm → String
  | text => "text"
  | multiple => "multiple"
  | listRow => "whatsapp_list"
  | other s => s

def ofName (s : String) : AnswerForm :=
  if s = "text" then text
  else if s = "multiple" then multiple
  else if s = "whatsapp_list" then listRow
  else other s

theorem name_ofName (s : String) : (ofName s).name = s := by
  unfold ofName; split
  · simp_all [name]
  · split
    · simp_all [name]
    · split <;> simp_all [name]

end AnswerForm

/-- What is asked, and which answers are offered. -/
structure Question where
  form : AnswerForm
  text : String
  options : List String
  interactive : Option (Assoc Json)

structure QuestionData where
  question : Question
  saveResponse : Option Target

def Question.decode : Decoder Question := record fun fields =>
  Question.mk <$> defaulted fields ["type"] .text (fun v => (string v).map AnswerForm.ofName)
    <*> defaulted fields ["text"] "" string
    <*> defaulted fields ["options"] [] (list string)
    <*> defaulted fields ["interactive"] none (nullable object)

def QuestionData.decode : Decoder QuestionData := record fun fields =>
  QuestionData.mk <$> required fields ["question"] Question.decode
    <*> defaulted fields ["saveResponse", "save_response"] none (nullable Target.decode)

/-! ### The rows of a list -/

def holdsText (part : String) (vs : List Json) : Bool := vs.any fun v => v.text? == some part

/-- The title of a row, if it has one. A row that is no object is not to mention titles at all. -/
def rowTitle? : Json → Except Fault (Option Json)
  | .obj fields => .ok (Assoc.get? fields "title")
  | .str s => if Text.occursIn "title" s then .error .wrongKind else .ok none
  | .arr vs => if holdsText "title" vs then .error .wrongKind else .ok none
  | _ => .error .wrongKind

def sectionTitles (v : Json) : Except Fault (List Json) := do
  return (← (← v.memberEach "rows").mapM rowTitle?).filterMap id

/-- The titles of all rows of all sections of the list that a question brings along. -/
def Question.rowTitles (q : Question) : Except Fault (List Json) :=
  match q.interactive with
  | none => .ok []
  | some fields =>
    if fields.isEmpty then .ok []
    else do
      let sections ← (← (Json.obj fields).memberObject "action").memberEach "sections"
      return (← sections.mapM sectionTitles).flatten

end ChatFlow.Step
