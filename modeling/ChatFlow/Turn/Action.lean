import ChatFlow.Step.Action
import ChatFlow.Turn.Question

/-!
# Acting

An action sends its messages or logs its comment. An action without a step below it ends the
conversation.
-/

namespace ChatFlow.Turn

open Step (Action ActionItem)

variable {κ : Type}

/-- Send the messages of some items, up to the first that is refused. -/
def sendItems (o : Outside κ) : Turn κ → List ActionItem → Except Fault Unit × Turn κ
  | t, [] => (.ok (), t)
  | t, i :: is => match i.text? with
    | none => sendItems o t is
    | some text => match t.send o (.text (t.session.fill text)) with
      | (.ok (), t) => sendItems o t is
      | (.error f, t) => (.error f, t)

def perform (t : Turn κ) (o : Outside κ) (a : Action) : Except Fault Unit × Turn κ :=
  match a.kind with
  | some .sendMessage => sendItems o t a.items
  | some .addComment => (.ok (), t.say .info ("[Bot Comment] " ++ t.session.fillOption a.comment))
  | _ => (.ok (), t)

def act (t : Turn κ) (o : Outside κ) (n : Node) : Progress κ :=
  match n.read Action.decode with
  | .error f => (.error f, t)
  | .ok a => match t.perform o a with
    | (.error f, t) => (.error f, t)
    | (.ok (), t) => match n.firstChild? with
      | some m => (.ok (some m), t)
      | none => (.ok none, t.finish)

@[simp] theorem session_sendItems (o : Outside κ) (t : Turn κ) (is : List ActionItem) :
    (sendItems o t is).2.session = t.session := by
  induction is generalizing t with
  | nil => rfl
  | cons i is ih =>
    simp only [sendItems]
    split
    · exact ih t
    · rename_i text _
      have hs := session_send t o (.text (t.session.fill text))
      split <;> rename_i heq <;> rw [heq] at hs
      · rw [ih]; exact hs
      · exact hs

@[simp] theorem session_perform (t : Turn κ) (o : Outside κ) (a : Action) :
    (t.perform o a).2.session = t.session := by
  simp only [perform]; split <;> simp

@[simp] theorem session_act (t : Turn κ) (o : Outside κ) (n : Node) :
    (t.act o n).2.session = t.session := by
  simp only [act]
  split
  · rfl
  · rename_i a _
    have := session_perform t o a
    split
    · rename_i heq; simpa [heq] using this
    · rename_i heq
      split <;> simpa [heq] using this

theorem act_next {t t' : Turn κ} {o : Outside κ} {n m : Node}
    (h : t.act o n = (.ok (some m), t')) : n.firstChild? = some m := by
  simp only [act] at h
  split at h
  · cases h
  · split at h
    · cases h
    · split at h <;> cases h
      assumption

end ChatFlow.Turn
