import ChatFlow.Answer
import ChatFlow.Turn.Basic

/-!
# Asking and answering

`Turn.ask` sends the prompt of a question and makes the conversation wait for the answer;
`Turn.answer` judges the answer and finds the step to go on with.
-/

namespace ChatFlow

open Step (Question QuestionData Target)

/-- The payload of a step, or the failure to read it. -/
def Node.read {α : Type} (n : Node) (d : Schema.Decoder α) : Except Fault α :=
  match d (.obj n.data) with
  | .ok a => .ok a
  | .bad i is => .error (.invalid (i :: is))

namespace Rules

def optionsList (r : Rules) (prompt : String) (options : List String) : Assoc Json :=
  let rows := options.zipIdx.map fun (o, i) =>
    Json.obj [("id", .str ("opt_" ++ toString i)), ("title", .str (Step.rowLabel o))]
  [("type", .str "list"), ("body", .obj [("text", .str prompt)]),
    ("action", .obj [("button", .str r.listButtonText),
      ("sections", .arr [.obj [("rows", .arr rows)]])])]

/-- The message that a question is asked with. A question that has nothing to choose from is asked
in plain text. -/
def prompt (r : Rules) (q : Question) (text : String) : Content :=
  match q.form, q.interactive, q.options with
  | .listRow, some (f :: fs), _ => .list (f :: fs)
  | .multiple, _, o :: os =>
    if Step.fitsButtons (o :: os) then .buttons text (o :: os)
    else .list (r.optionsList text (o :: os))
  | _, _, _ => .text text

end Rules

namespace Session

def save (s : Session) (target : Target) (value : String) : Session :=
  let s := match target.toVariable? with
    | some name => s.setVariable name value
    | none => s
  match target.toField? with
  | some name => { s with contact := s.contact.set name value }
  | none => s

/-- How many answers in a row a question has refused. -/
def attempts (s : Session) (question : String) : Int := (s.invalidAttempts.get? question).getD 0

@[simp] theorem jumpCounts_save (s : Session) (t : Target) (v : String) :
    (s.save t v).jumpCounts = s.jumpCounts := by
  simp only [save]; split <;> split <;> rfl

@[simp] theorem invalidAttempts_save (s : Session) (t : Target) (v : String) :
    (s.save t v).invalidAttempts = s.invalidAttempts := by
  simp only [save]; split <;> split <;> rfl

@[simp] theorem waiting_save (s : Session) (t : Target) (v : String) :
    (s.save t v).waiting = s.waiting := by
  simp only [save]; split <;> split <;> rfl

@[simp] theorem id_save (s : Session) (t : Target) (v : String) : (s.save t v).id = s.id := by
  simp only [save]; split <;> split <;> rfl

end Session

namespace Turn

variable {κ : Type}

def ask (t : Turn κ) (o : Outside κ) (r : Rules) (n : Node) : Progress κ :=
  match n.read QuestionData.decode with
  | .error f => (.error f, t)
  | .ok d => match t.send o (r.prompt d.question (t.session.fill d.question.text)) with
    | (.error f, t) => (.error f, t)
    | (.ok (), t) => (.ok none, t.modify fun s => { s with waiting := n.id })

/-- Take an answer: the count of wrong ones starts over, and the answer is kept. -/
def take (t : Turn κ) (n : Node) (d : QuestionData) (reply : String) : Progress κ :=
  (.ok (n.after? .validAnswer), t.modify fun s =>
    let s := { s with invalidAttempts := s.invalidAttempts.erase n.label }
    match d.saveResponse with
    | some target => s.save target (d.question.kept reply)
    | none => s)

/-- Refuse an answer: go on as the step says, or ask again as often as the rules allow. -/
def refuse (t : Turn κ) (r : Rules) (n : Node) (reply : String) : Progress κ :=
  let t := t.say .info ("Invalid answer to " ++ n.label ++ ": " ++ Text.quoted (Text.clip 50 reply))
  match n.after? .invalidAnswer with
  | some m => (.ok (some m), t)
  | none =>
    let attempts := t.session.attempts n.label + 1
    let t := t.modify fun s => { s with invalidAttempts := s.invalidAttempts.put n.label attempts }
    if r.maxInvalidAttempts ≠ 0 ∧ attempts > r.maxInvalidAttempts then
      (.ok none,
        (t.say .info ("Too many invalid answers to " ++ n.label ++ ", ending session")).finish)
    else (.ok (some n), t)

/-- Judge the answer to a question. The question does not wait any longer. -/
def answer (t : Turn κ) (r : Rules) (n : Node) (reply : String) : Progress κ :=
  match n.read QuestionData.decode with
  | .error f => (.error f, t)
  | .ok d =>
    let t := t.modify fun s => { s with waiting := none }
    match d.question.accepts reply with
    | .error f => (.error f, t)
    | .ok true => t.take n d reply
    | .ok false => t.refuse r n reply

/-- After a question is asked no step comes next. -/
theorem ask_next {t t' : Turn κ} {o : Outside κ} {r : Rules} {n m : Node} :
    t.ask o r n ≠ (.ok (some m), t') := by
  unfold ask; split
  · simp
  · split <;> simp

/-- An answer leads to the question itself or to a step right below one of its branches. -/
theorem answer_next {t t' : Turn κ} {r : Rules} {n m : Node} {reply : String}
    (h : t.answer r n reply = (.ok (some m), t')) :
    m = n ∨ n.after? .validAnswer = some m ∨ n.after? .invalidAnswer = some m := by
  simp only [answer] at h
  split at h
  · cases h
  · split at h
    · cases h
    · simp only [take, Prod.mk.injEq, Except.ok.injEq] at h
      exact Or.inr (Or.inl h.1)
    · simp only [refuse] at h
      split at h
      · rename_i heq; cases h; exact Or.inr (Or.inr heq)
      · split at h <;> cases h
        exact Or.inl rfl

end Turn

end ChatFlow
