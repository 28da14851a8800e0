import ChatFlow.Turn.Question

/-!
# Calling an endpoint

A request step makes one call and keeps what the reply tells. It never fails: whatever goes wrong,
nothing is kept and the step goes on to the branch for that case.
-/

namespace ChatFlow

open Step (Request Mapping)

def Step.Mapping.pick (m : Mapping) (content : Json) : String :=
  ((content.field? m.key).getD .null).plainText

/-- Keep what a reply tells: all of it first, then field by field. -/
def Session.keepReply (s : Session) (r : Request) (content : Json) : Session :=
  let s := match r.saveResponse.bind (·.toVariable?) with
    | some name => s.setVariable name content.render
    | none => s
  r.responseMap.foldl (fun s m => s.setVariable m.variableName (m.pick content)) s

/-- Keeping a reply writes variables only. -/
theorem Session.keepReply_eq (s : Session) (r : Request) (v : Json) :
    s.keepReply r v = { s with vars := (s.keepReply r v).vars } := by
  have fold (ms : List Mapping) (s : Session) :
      ms.foldl (fun s m => s.setVariable m.variableName (m.pick v)) s =
        { s with vars := (ms.foldl (fun s m => s.setVariable m.variableName (m.pick v)) s).vars } := by
    induction ms generalizing s with
    | nil => rfl
    | cons m ms ih => rw [List.foldl_cons, ih]; rfl
  simp only [keepReply]
  rw [fold]
  split <;> rfl

@[simp] theorem Session.jumpCounts_keepReply (s : Session) (r : Request) (v : Json) :
    (s.keepReply r v).jumpCounts = s.jumpCounts := by rw [keepReply_eq]

@[simp] theorem Session.id_keepReply (s : Session) (r : Request) (v : Json) :
    (s.keepReply r v).id = s.id := by rw [keepReply_eq]

@[simp] theorem Session.waiting_keepReply (s : Session) (r : Request) (v : Json) :
    (s.keepReply r v).waiting = s.waiting := by rw [keepReply_eq]

namespace Turn

variable {κ : Type}

/-- Make the call of a step; the answer is what the reply tells. -/
def call (t : Turn κ) (o : Outside κ) (r : Request) : Option Json × Turn κ :=
  match Endpoint.Call.ofStep? r t.session with
  | none => (none, t)
  | some call =>
    let (reply, world) := o.fetch t.world call
    let t := { t with world }.record (.called call)
    if call.url.isAbsolute then (reply.bind (·.content? o.codecs), t) else (none, t)

def request (t : Turn κ) (o : Outside κ) (n : Node) : Progress κ :=
  let failed (t : Turn κ) : Progress κ :=
    (.ok (n.after? .invalidAnswer), t.say .error ("HTTP request step " ++ n.label ++ " failed"))
  match n.read Request.decode with
  | .error _ => failed t
  | .ok r => match t.call o r with
    | (none, t) => failed t
    | (some content, t) => (.ok (n.after? .validAnswer), t.modify (·.keepReply r content))

@[simp] theorem session_call (t : Turn κ) (o : Outside κ) (r : Request) :
    (t.call o r).2.session = t.session := by
  simp only [call]; split
  · rfl
  · split <;> rfl

/-- A request leaves the session as it was or keeps a reply in it. -/
theorem session_request (t : Turn κ) (o : Outside κ) (n : Node) :
    (t.request o n).2.session = t.session ∨
      ∃ r v, (t.request o n).2.session = t.session.keepReply r v := by
  simp only [request]
  split
  · exact Or.inl rfl
  · rename_i r _
    have hs := session_call t o r
    split <;> rename_i heq <;> rw [heq] at hs
    · exact Or.inl hs
    · rename_i content _
      exact Or.inr ⟨r, content, congrArg (·.keepReply r content) hs⟩

@[simp] theorem jumpCounts_request (t : Turn κ) (o : Outside κ) (n : Node) :
    (t.request o n).2.session.jumpCounts = t.session.jumpCounts := by
  rcases session_request t o n with h | ⟨r, v, h⟩ <;> simp [h]

theorem request_next {t t' : Turn κ} {o : Outside κ} {n m : Node}
    (h : t.request o n = (.ok (some m), t')) :
    n.after? .validAnswer = some m ∨ n.after? .invalidAnswer = some m := by
  simp only [request] at h
  split at h
  · simp only [Prod.mk.injEq, Except.ok.injEq] at h; exact Or.inr h.1
  · split at h <;> simp only [Prod.mk.injEq, Except.ok.injEq] at h
    · exact Or.inr h.1
    · exact Or.inl h.1

end Turn

end ChatFlow
