import ChatFlow.Proofs.Bot.Session
import ChatFlow.Proofs.Choice.Selection
import ChatFlow.Proofs.Turn.Request

/-!
# Variables that hold choices

A variable is written by the questions and the requests that name it (`Node.Writes`); nothing else
changes it (`Turn.Touches.get?_vars`, `Turn.vars_answer`). If all of these are questions with options
to choose from, the variable is never anything but one of the options
(`choice_variables_hold_choices`).
-/

namespace ChatFlow

open Step (Mapping Predicate Question QuestionData Request Target)

/-! ### Who writes a variable -/

/-- A step that can write the variable `v`: with the answer to a question, with all that a request is
told, or with one field of it. -/
inductive Node.Writes (n : Node) (v : String) : Prop
  | answer (d : QuestionData) (hk : n.kind = .question) (hd : n.read QuestionData.decode = .ok d)
      (hv : d.saveResponse.bind (·.toVariable?) = some v)
  | reply (r : Request) (hk : n.kind = .httpRequest) (hr : n.read Request.decode = .ok r)
      (hv : r.saveResponse.bind (·.toVariable?) = some v)
  | field (r : Request) (m : Mapping) (hk : n.kind = .httpRequest)
      (hr : n.read Request.decode = .ok r) (hm : m ∈ r.responseMap) (hv : m.variableName = v)

/-- A question that offers options to choose from and keeps the one that is chosen in `v`. -/
structure Node.KeepsChoice (n : Node) (v : String) (d : QuestionData) : Prop where
  kind : n.kind = .question
  data : n.read QuestionData.decode = .ok d
  form : d.question.form = .multiple
  target : d.saveResponse.bind (·.toVariable?) = some v

namespace Workflow

/-- Whatever step can write `v` is a question with options to choose from. -/
def WritesChoices (w : Workflow) (v : String) : Prop :=
  ∀ n ∈ w.root.preorder, n.Writes v → ∃ d, n.KeepsChoice v d

/-- An option of a question whose choice is kept in `v`. -/
def IsChoice (w : Workflow) (v value : String) : Prop :=
  ∃ q ∈ w.root.preorder, ∃ d, q.KeepsChoice v d ∧ value ∈ d.question.options

/-- The variable `v` is not set, or holds a choice. -/
def HoldsChoice (w : Workflow) (v : String) (s : Session) : Prop :=
  ∀ value, s.vars.get? v = some value → w.IsChoice v value

variable {w : Workflow} {v : String} {s s' : Session}

theorem HoldsChoice.congr (h : w.HoldsChoice v s) (hs : s'.vars.get? v = s.vars.get? v) :
    w.HoldsChoice v s' :=
  fun value hvalue => h value (hs.symm.trans hvalue)

/-- A predicate on `v` sees the empty text, which stands for no value, or a choice. -/
theorem HoldsChoice.subject (h : w.HoldsChoice v s) {p : Predicate} (hp : p.subjectName? = some v) :
    s.vars.get? v = none ∧ p.subject s.vars = "" ∨ w.IsChoice v (p.subject s.vars) := by
  have hsubject : p.subject s.vars = (s.vars.get? v).getD "" := by rw [Predicate.subject, hp]; rfl
  rw [hsubject]
  cases hvalue : s.vars.get? v with
  | none => exact Or.inl ⟨rfl, rfl⟩
  | some value => exact Or.inr (h value hvalue)

end Workflow

/-! ### Options -/

namespace Step.Question

variable {q : Question} {reply value : String}

theorem mem_options_of_selected? (h : q.selected? reply = some value) : value ∈ q.options := by
  unfold selected? at h
  split at h
  · rename_i hmem
    cases h
    exact List.contains_iff_mem.1 hmem
  · split at h
    · cases h
    · exact List.mem_of_find?_eq_some h

theorem kept_mem_options (hform : q.form = .multiple) (h : q.accepts reply = .ok true) :
    q.kept reply ∈ q.options := by
  have hsome : (q.selected? reply).isSome := by simpa [accepts, hform] using h
  obtain ⟨value, hvalue⟩ := Option.isSome_iff_exists.1 hsome
  have hkept : q.kept reply = value := by simp [kept, hform, hvalue]
  rw [hkept]
  exact mem_options_of_selected? hvalue

end Step.Question

/-! ### What is written -/

theorem Session.vars_save (s : Session) (target : Target) (value : String) :
    (s.save target value).vars =
      (target.toVariable?.map fun v => s.vars.put v value).getD s.vars := by
  simp only [save]
  split <;> split <;> simp_all [setVariable]

theorem Step.Request.mem_keys_writes {r : Request} {content : Json} {v : String} :
    v ∈ Assoc.keys (r.writes content) ↔
      r.saveResponse.bind (·.toVariable?) = some v ∨ ∃ m ∈ r.responseMap, m.variableName = v := by
  rw [Assoc.keys, writes, List.map_append, List.mem_append]
  refine or_congr ?_ (by simp)
  cases r.saveResponse.bind (·.toVariable?) <;> simp [eq_comm]

namespace Turn

variable {κ : Type} {n : Node} {s s' : Session}

theorem Touches.get?_vars (h : Touches n s s') (v : String) :
    s'.vars.get? v = s.vars.get? v ∨ n.kind = .httpRequest ∧ n.Writes v := by
  cases h with
  | vars q content hk hq =>
    rw [Session.keepReply_eq_putAll]
    by_cases hv : v ∈ Assoc.keys (q.writes content)
    · refine Or.inr ⟨hk, ?_⟩
      rcases Request.mem_keys_writes.1 hv with hv | ⟨m, hm, hv⟩
      · exact .reply q hk hq hv
      · exact .field q m hk hq hm hv
    · exact Or.inl (Assoc.get?_putAll_of_not_mem hv _)
  | _ => exact Or.inl rfl

/-- An answer writes nothing unless it is accepted, and then the variable of its question only. -/
theorem vars_answer (t : Turn κ) (r : Rules) (n : Node) (reply : String) :
    (t.answer r n reply).2.session.vars = t.session.vars ∨
      ∃ d v, n.read QuestionData.decode = .ok d ∧ d.question.accepts reply = .ok true ∧
        d.saveResponse.bind (·.toVariable?) = some v ∧
        (t.answer r n reply).2.session.vars = t.session.vars.put v (d.question.kept reply) := by
  unfold answer
  split
  · exact Or.inl rfl
  · rename_i d hd
    dsimp only
    split
    · exact Or.inl rfl
    · rename_i haccepts
      simp only [take, modify]
      cases hsave : d.saveResponse with
      | none => exact Or.inl rfl
      | some target =>
        dsimp only
        rw [Session.vars_save]
        cases hv : target.toVariable? with
        | none => exact Or.inl rfl
        | some v => exact Or.inr ⟨d, v, hd, haccepts, by rw [hsave]; exact hv, rfl⟩
    · simp only [refuse]
      split
      · exact Or.inl rfl
      · split
        · rw [session_finish]; exact Or.inl rfl
        · exact Or.inl rfl

variable {w : Workflow} {v : String}

theorem holdsChoice_of_touches (hw : w.WritesChoices v) (hn : n ∈ w.root.preorder)
    (ht : Touches n s s') (h : w.HoldsChoice v s) : w.HoldsChoice v s' := by
  rcases ht.get?_vars v with hs | ⟨hk, hwrites⟩
  · exact h.congr hs
  · obtain ⟨d, hd⟩ := hw n hn hwrites
    have hno := hd.kind
    rw [hk] at hno
    cases hno

theorem holdsChoice_answer (hw : w.WritesChoices v) (hn : n ∈ w.root.preorder)
    (hk : n.kind = .question) (t : Turn κ) (r : Rules) (reply : String)
    (h : w.HoldsChoice v t.session) : w.HoldsChoice v (t.answer r n reply).2.session := by
  rcases t.vars_answer r n reply with hs | ⟨d, v', hd, haccepts, hv, hs⟩
  · exact h.congr (by rw [hs])
  · by_cases hvv : v' = v
    · subst hvv
      obtain ⟨d', hd'⟩ := hw n hn (.answer d hk hd hv)
      obtain rfl : d' = d := Except.ok.inj (hd'.data.symm.trans hd)
      intro value hvalue
      rw [hs, Assoc.get?_put_self] at hvalue
      cases hvalue
      exact ⟨n, hn, d', hd', Question.kept_mem_options hd'.form haccepts⟩
    · exact h.congr (by rw [hs, Assoc.get?_put_of_ne _ _ hvv])

end Turn

namespace Bot

variable {κ : Type}

/-! ### Messages -/

theorem holdsChoice_opening (b : Bot κ) {v : String} (hw : b.workflow.WritesChoices v)
    (st : State κ) (now : Instant) (id text name : String)
    (hst : ∀ s, st.registry.find? id = some s → b.workflow.HoldsChoice v s) :
    b.workflow.HoldsChoice v (b.opening st now id text name).2.session := by
  rcases b.session_opening st now id text name with ⟨-, hs⟩ | ⟨s, hl, hs⟩
  · rw [hs]; exact nofun
  · obtain ⟨s', hs', rfl⟩ := Option.map_eq_some_iff.1 hl
    have hbefore : b.workflow.HoldsChoice v (s'.touch now) :=
      (hst s' (Option.filter_eq_some_iff.1 hs').1).congr rfl
    rcases hs with ⟨-, hs⟩ | ⟨q, hq, hs, -⟩ <;> rw [hs]
    · exact hbefore
    · exact Turn.holdsChoice_answer hw (Workflow.mem_of_question? hq)
        (Workflow.question?_eq_some_iff.1 hq).2 (Turn.start (s'.touch now) st.world) b.rules text
        hbefore

theorem holdsChoice_of_reaches {b : Bot κ} {v : String} (hw : b.workflow.WritesChoices v)
    {timeout : Option Rat} {st : State κ} {lives : String → List Event}
    (hr : Reaches b timeout st lives) {c : String} {s : Session}
    (hs : st.registry.find? c = some s) : b.workflow.HoldsChoice v s := by
  refine hr.forall_session (P := fun s _ => b.workflow.HoldsChoice v s) ?_ hs
  intro st lives now id text name hst _
  exact b.turn_keeps (fun _ hn _ _ => Turn.holdsChoice_of_touches hw hn) st now id text name
    (b.holdsChoice_opening hw st now id text name hst)

/-- A variable that only choices are written to only ever holds choices. If all steps of a workflow
that can write it are questions with options to choose from, then in every state that the bot can come
to every session lacks the variable or has one of these options in it: never the label that was cut
from one, and never what was replied. It is so before each step of each message, too, and so a
predicate on the variable sees no value at all or an option. -/
theorem choice_variables_hold_choices (b : Bot κ) {v : String} (hw : b.workflow.WritesChoices v)
    {timeout : Option Rat} {st : State κ} {lives : String → List Event}
    (hr : Reaches b timeout st lives) (c : String) :
    (∀ s, st.registry.find? c = some s → ∀ value, s.vars.get? v = some value →
      b.workflow.IsChoice v value) ∧
    ∀ now text name k,
      let s := ((Turn.pass b.outside b.workflow b.rules)^[k] (b.opening st now c text name)).2.session
      (∀ value, s.vars.get? v = some value → b.workflow.IsChoice v value) ∧
      ∀ p : Predicate, p.subjectName? = some v →
        s.vars.get? v = none ∧ p.subject s.vars = "" ∨ b.workflow.IsChoice v (p.subject s.vars) := by
  refine ⟨fun s hs => holdsChoice_of_reaches hw hr hs, fun now text name k => ?_⟩
  have hopen : b.workflow.HoldsChoice v (b.opening st now c text name).2.session :=
    b.holdsChoice_opening hw st now c text name fun s hs => holdsChoice_of_reaches hw hr hs
  have hpass := b.passed_keeps (P := b.workflow.HoldsChoice v)
    (fun _ hn _ _ => Turn.holdsChoice_of_touches hw hn) st now c text name hopen k
  exact ⟨hpass, fun p hp => hpass.subject hp⟩

/-- An option that is too long for the title of a row: the title that was cut from it comes back, and
what the variable holds is the option. -/
theorem choice_variables_hold_choices_cut_title :
    let payload : Assoc Json := [
      ("question", .obj [("type", .str "multiple"), ("text", .str "Where?"),
        ("options", .arr [.str "Standing area near the stage", .str "VIP"])]),
      ("saveResponse", .obj [("hasVariable", .bool true), ("variable", .str "area")])]
    let definition : Json := .obj [("type", .str "Trigger"), ("childs", .arr [
      .obj [("id", .int 1), ("type", .str "QuestionStep"), ("data", .obj payload)]])]
    let ask : Node := ⟨some "1", .question, payload, []⟩
    let w : Workflow := ⟨⟨none, .other "Trigger", [], [ask]⟩, [("1", ask)], "seats", fun h => by
      cases List.mem_singleton.1 (Assoc.mem_of_get? h)
      exact Node.mem_preorder_of_child List.mem_cons_self (Node.mem_preorder_self _)⟩
    let o : Outside Unit := ⟨fun _ _ => (.ok (), [], ()), fun _ _ => (none, ()), fun _ => none⟩
    let b : Bot Unit := ⟨w, ⟨3, 3, Rules.standardListButton⟩, o⟩
    let asked := (b.handle ⟨.empty none, ()⟩ (.ofInt 0) "a" "hello" "Ada").1
    let answered := (b.handle asked (.ofInt 5) "a" "Standing area near the s" "Ada").1
    Workflow.ofDefinition definition true (some "seats") = .ok (w, w.report) ∧
      w.WritesChoices "area" ∧
      ∃ s, answered.registry.find? "a" = some s ∧
        s.vars.get? "area" = some "Standing area near the stage" ∧
        w.IsChoice "area" "Standing area near the stage" := by
  intro payload definition ask w o b asked answered
  have hw : Workflow.ofDefinition definition true (some "seats") = .ok (w, w.report) := rfl
  have hask : ask ∈ w.root.preorder :=
    Node.mem_preorder_of_child List.mem_cons_self (Node.mem_preorder_self _)
  let d : QuestionData := ⟨⟨.multiple, "Where?", ["Standing area near the stage", "VIP"], none⟩,
    some ⟨true, some "area", false, none⟩⟩
  have hd : ask.read QuestionData.decode = .ok d := rfl
  have hwrites : w.WritesChoices "area" := by
    intro n hn hwrites
    have hn' : n = w.root ∨ n = ask := by
      rcases Node.mem_preorder.1 hn with hroot | ⟨c, hc, hn⟩
      · exact Or.inl hroot
      · obtain rfl : c = ask := List.mem_singleton.1 hc
        rcases Node.mem_preorder.1 hn with hn | ⟨c, hc, -⟩
        · exact Or.inr hn
        · cases hc
    rcases hn' with rfl | rfl
    · rcases hwrites with ⟨_, hk, _, _⟩ | ⟨_, hk, _, _⟩ | ⟨_, _, hk, _, _, _⟩ <;> cases hk
    · exact ⟨d, rfl, hd, rfl, rfl⟩
  let s : Session := { Session.start (.ofInt 0) "a" "Ada" with waiting := some "1" }
  have hfirst : b.turn ⟨.empty none, ()⟩ (.ofInt 0) "a" "hello" "Ada" =
      (((Turn.start (Session.start (.ofInt 0) "a" "Ada") ()).begin ask).execute o w b.rules ask).2 :=
    Turn.run_of_none (t := Turn.start (Session.start (.ofInt 0) "a" "Ada") ()) hask rfl
  have hs : asked.registry.find? "a" = some s := by rw [find?_handle, if_pos rfl, hfirst]; rfl
  have hl : asked.registry.live? (.ofInt 5) "a" = some (s.touch (.ofInt 5)) := by
    refine Registry.live?_of_find? hs ?_
    rw [Registry.isExpired, idleTimeout_handle]; rfl
  let t := Turn.start (s.touch (.ofInt 5)) asked.world
  have hselected : d.question.selected? "Standing area near the s" =
      some "Standing area near the stage" := by decide +kernel
  have hturn : b.turn asked (.ofInt 5) "a" "Standing area near the s" "Ada" =
      (t.takeOption ask d "Standing area near the stage").2 := by
    rw [turn, hl]
    show t.resume o w b.rules "Standing area near the s" = _
    exact (Turn.resume_of_some (n := ask) rfl).trans
      (Turn.judge_of_none hask (Turn.answer_of_selected hd rfl hselected))
  have hanswered : answered.registry.find? "a" =
      some (t.takeOption ask d "Standing area near the stage").2.session := by
    rw [find?_handle, if_pos rfl, hturn]; rfl
  have hr : Reaches b none answered _ :=
    (Reaches.message (.start ()) (.ofInt 0) "a" "hello" "Ada").message (.ofInt 5) "a"
      "Standing area near the s" "Ada"
  exact ⟨hw, hwrites, _, hanswered, rfl,
    (choice_variables_hold_choices b hwrites hr "a").1 _ hanswered _ rfl⟩

end Bot

end ChatFlow
