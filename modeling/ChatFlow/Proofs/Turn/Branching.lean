import ChatFlow.Turn.Run

/-!
# The first open branch is taken

A branch is open if it is tagged as the one for all other cases, or if its conditions can be read, are
some, and are all met (`Node.IsOpen`). A step that chooses between branches looks at them in their
order: it goes on below the first one that is open, and stops the run if one that stands before it
cannot be read. What stands behind the open branch is not looked at, and what is no branch never is
(`Turn.first_open_branch_is_taken`).
-/

namespace ChatFlow

namespace Step

/-! ### Conditions -/

namespace Predicate

/-- The value that a predicate is about: that of the variable which it names, and the empty text if it
names none or if the variable was never set. -/
def tested (p : Predicate) (vars : Assoc String) : String :=
  match p.hasVariable, p.variableName with
  | true, some name => if name = "" then "" else (vars.get? name).getD ""
  | _, _ => ""

/-- Only a comparison can fail, and it does unless the expected value is a text and is the tested one. -/
def IsMet (p : Predicate) (vars : Assoc String) : Prop :=
  p.operator = some "equal_to" → p.values = .str (p.tested vars)

theorem subject_eq_tested (p : Predicate) (vars : Assoc String) : p.subject vars = p.tested vars := by
  obtain ⟨_ | _, _ | name, operator, values⟩ := p
  · rfl
  · rfl
  · rfl
  · by_cases hname : name = "" <;>
      simp [subject, subjectName?, Target.named, tested, Option.filter, hname]

theorem holds_iff {p : Predicate} {vars : Assoc String} : p.holds vars ↔ p.IsMet vars := by
  have htext : p.values.text? = some (p.tested vars) ↔ p.values = .str (p.tested vars) := by
    cases p.values <;> simp [Json.text?]
  by_cases hop : p.operator = some equalTo
  · simp [holds, IsMet, hop, equalTo, subject_eq_tested, htext]
  · rw [holds, if_neg hop]
    exact ⟨fun _ h => absurd h hop, fun _ => rfl⟩

instance (p : Predicate) (vars : Assoc String) : Decidable (p.IsMet vars) :=
  decidable_of_iff _ holds_iff

end Predicate

namespace Conditions

/-- There are conditions, and all of them are met. -/
def AreMet (c : Conditions) (vars : Assoc String) : Prop :=
  c.predicates ≠ [] ∧ ∀ p ∈ c.predicates, p.IsMet vars

theorem hold_iff {c : Conditions} {vars : Assoc String} : c.hold vars ↔ c.AreMet vars := by
  simp [hold, AreMet, Predicate.holds_iff]

instance (c : Conditions) (vars : Assoc String) : Decidable (c.AreMet vars) :=
  decidable_of_iff _ hold_iff

end Conditions

end Step

open Step (Conditions)

/-! ### Branches -/

namespace Node

/-- A branch that is taken if no other one stands before it. -/
def IsOpen (c : Node) (vars : Assoc String) : Prop :=
  c.kind = .elseCondition ∨
    c.kind = .ifCondition ∧ ∃ g, c.read Conditions.decode = .ok g ∧ g.AreMet vars

/-- A node that no choice fails at: if it is a branch with conditions, these can be read. -/
def IsReadable (c : Node) : Prop :=
  c.kind = .ifCondition → ∃ g, c.read Conditions.decode = .ok g

theorem exists_error_of_not_isReadable {c : Node} (h : ¬ c.IsReadable) :
    c.kind = .ifCondition ∧ ∃ f, c.read Conditions.decode = .error f := by
  by_cases hif : c.kind = .ifCondition
  · cases hread : c.read Conditions.decode with
    | ok g => exact absurd (fun _ => ⟨g, hread⟩) h
    | error f => exact ⟨hif, f, rfl⟩
  · exact absurd (fun h => absurd h hif) h

/-- What is logged where a choice comes to a node. -/
def remarks (c : Node) (vars : Assoc String) : List Log.Entry :=
  match c.kind, c.read Conditions.decode with
  | .ifCondition, .ok g => g.remarks vars
  | _, _ => []

theorem remarks_of_ne {c : Node} (hif : c.kind ≠ .ifCondition) (vars : Assoc String) :
    c.remarks vars = [] := by
  rw [remarks]
  split
  · exact absurd ‹_› hif
  · rfl

instance (c : Node) (vars : Assoc String) : Decidable (c.IsOpen vars) :=
  if helse : c.kind = .elseCondition then .isTrue (.inl helse)
  else match hread : c.read Conditions.decode with
    | .ok g => decidable_of_iff (c.kind = .ifCondition ∧ g.AreMet vars) (by simp [IsOpen, helse, hread])
    | .error _ => .isFalse (by simp [IsOpen, helse, hread])

end Node

section Choice

variable {vars : Assoc String} {c : Node} {cs : List Node}

theorem chooseBranch_of_isOpen (hc : c.IsOpen vars) :
    chooseBranch vars (c :: cs) = (.ok c.firstChild?, c.remarks vars) := by
  rcases hc with helse | ⟨hif, g, hg, hmet⟩
  · simp only [chooseBranch, helse, Node.remarks]
  · simp only [chooseBranch, hif, hg, Step.Conditions.hold_iff.2 hmet, if_true, Node.remarks]

theorem chooseBranch_of_isReadable (hc : ¬ c.IsOpen vars) (hread : c.IsReadable) :
    chooseBranch vars (c :: cs) =
      ((chooseBranch vars cs).1, c.remarks vars ++ (chooseBranch vars cs).2) := by
  by_cases hif : c.kind = .ifCondition
  · obtain ⟨g, hg⟩ := hread hif
    have hmet : ¬ g.hold vars := fun h => hc (.inr ⟨hif, g, hg, Step.Conditions.hold_iff.1 h⟩)
    simp only [chooseBranch, hif, hg, hmet, Node.remarks]
    rfl
  · have helse : c.kind ≠ .elseCondition := fun h => hc (.inl h)
    rw [Node.remarks_of_ne hif, chooseBranch]
    split
    · exact absurd ‹_› hif
    · exact absurd ‹_› helse
    · rfl

theorem chooseBranch_of_error {f : Fault} (hif : c.kind = .ifCondition)
    (hf : c.read Conditions.decode = .error f) :
    chooseBranch vars (c :: cs) = (.error f, []) := by
  simp only [chooseBranch, hif, hf]

/-- The nodes that stand before the first open branch: all of them, if no branch is open. -/
def beforeOpen (vars : Assoc String) (cs : List Node) : List Node :=
  cs.takeWhile fun c => ¬ c.IsOpen vars

def firstOpen? (vars : Assoc String) (cs : List Node) : Option Node :=
  cs.find? fun c => c.IsOpen vars

/-- The nodes that a choice depends on: the branches with conditions before the first open branch, and
this one. -/
def deciding (vars : Assoc String) (cs : List Node) : List Node :=
  (beforeOpen vars cs).filter (·.kind = .ifCondition) ++ (firstOpen? vars cs).toList

theorem beforeOpen_cons (c : Node) (cs : List Node) : beforeOpen vars (c :: cs) =
    if c.IsOpen vars then [] else c :: beforeOpen vars cs := by
  by_cases hc : c.IsOpen vars <;> simp [beforeOpen, hc]

theorem firstOpen?_cons (c : Node) (cs : List Node) : firstOpen? vars (c :: cs) =
    if c.IsOpen vars then some c else firstOpen? vars cs := by
  by_cases hc : c.IsOpen vars <;> simp [firstOpen?, hc]

theorem chooseBranch_of_forall_isReadable (h : ∀ c ∈ beforeOpen vars cs, c.IsReadable) :
    (chooseBranch vars cs).1 = .ok ((firstOpen? vars cs).bind Node.firstChild?) := by
  induction cs with
  | nil => rfl
  | cons c cs ih =>
    rw [beforeOpen_cons] at h
    rw [firstOpen?_cons]
    by_cases hc : c.IsOpen vars
    · rw [chooseBranch_of_isOpen hc, if_pos hc]
      rfl
    · rw [if_neg hc] at h
      rw [chooseBranch_of_isReadable hc (h c List.mem_cons_self), if_neg hc]
      exact ih fun b hb => h b (List.mem_cons_of_mem _ hb)

theorem chooseBranch_of_exists_not_isReadable (h : ∃ c ∈ beforeOpen vars cs, ¬ c.IsReadable) :
    ∃ c ∈ beforeOpen vars cs, ∃ f, c.read Conditions.decode = .error f ∧
      (chooseBranch vars cs).1 = .error f := by
  induction cs with
  | nil =>
    obtain ⟨c, hc, -⟩ := h
    cases hc
  | cons c cs ih =>
    rw [beforeOpen_cons] at h ⊢
    by_cases hc : c.IsOpen vars
    · rw [if_pos hc] at h
      obtain ⟨b, hb, -⟩ := h
      cases hb
    · rw [if_neg hc] at h ⊢
      by_cases hread : c.IsReadable
      · -- The unreadable branch stands further on, and the choice gets there.
        obtain ⟨b, hb, hunread⟩ := h
        have hb : b ∈ beforeOpen vars cs := by
          rcases List.mem_cons.1 hb with rfl | hb
          · exact absurd hread hunread
          · exact hb
        obtain ⟨b', hb', f, hf, hfails⟩ := ih ⟨b, hb, hunread⟩
        rw [chooseBranch_of_isReadable hc hread]
        exact ⟨b', List.mem_cons_of_mem _ hb', f, hf, hfails⟩
      · obtain ⟨hif, f, hf⟩ := Node.exists_error_of_not_isReadable hread
        exact ⟨c, List.mem_cons_self, f, hf, by rw [chooseBranch_of_error hif hf]⟩

/-- A choice is the one between the nodes that it depends on. -/
theorem chooseBranch_deciding (vars : Assoc String) (cs : List Node) :
    chooseBranch vars (deciding vars cs) = chooseBranch vars cs := by
  induction cs with
  | nil => rfl
  | cons c cs ih =>
    by_cases hc : c.IsOpen vars
    · have hdeciding : deciding vars (c :: cs) = [c] := by
        rw [deciding, beforeOpen_cons, firstOpen?_cons, if_pos hc, if_pos hc]
        rfl
      rw [hdeciding, chooseBranch_of_isOpen hc, chooseBranch_of_isOpen hc]
    · have hdeciding : deciding vars (c :: cs) =
          if c.kind = .ifCondition then c :: deciding vars cs else deciding vars cs := by
        rw [deciding, beforeOpen_cons, firstOpen?_cons, if_neg hc, if_neg hc, List.filter_cons]
        by_cases hif : c.kind = .ifCondition <;> simp [hif, deciding]
      rw [hdeciding]
      by_cases hif : c.kind = .ifCondition
      · rw [if_pos hif]
        by_cases hread : c.IsReadable
        · rw [chooseBranch_of_isReadable hc hread, chooseBranch_of_isReadable hc hread, ih]
        · obtain ⟨-, f, hf⟩ := Node.exists_error_of_not_isReadable hread
          rw [chooseBranch_of_error hif hf, chooseBranch_of_error hif hf]
      · have hread : c.IsReadable := fun h => absurd h hif
        rw [if_neg hif, chooseBranch_of_isReadable hc hread, ih, Node.remarks_of_ne hif]
        rfl

end Choice

/-! ### Turns -/

namespace Turn

variable {κ : Type}

/-- The turn `t` came to the step `n` and stopped there: nothing was changed, sent or called, and no
other step was begun. -/
structure StopsAt (t : Turn κ) (n : Node) (t' : Turn κ) : Prop where
  session : t'.session = t.session
  isLive : t'.isLive = t.isLive
  world : t'.world = t.world
  events : ∃ log : List Log.Entry, t'.events = t.events ++ .begun n :: log.map .noted

theorem noteAll_eq (t : Turn κ) (es : List Log.Entry) :
    t.noteAll es = { t with events := t.events ++ es.map .noted } := by
  induction es generalizing t with
  | nil => simp [noteAll]
  | cons e es ih =>
    have hcons : t.noteAll (e :: es) = (t.note e).noteAll es := rfl
    rw [hcons, ih]
    simp [note, record]

theorem execute_branch {n : Node} (hk : n.kind = .branch) (t : Turn κ) (o : Outside κ)
    (w : Workflow) (r : Rules) : t.execute o w r n =
      ((chooseBranch t.session.vars n.children).1,
        t.noteAll (chooseBranch t.session.vars n.children).2) := by
  rw [execute, hk]
  rfl

theorem stopsAt_of_branch_error {t : Turn κ} {o : Outside κ} {w : Workflow} {r : Rules} {n : Node}
    {f : Fault} (hk : n.kind = .branch) (hf : (t.execute o w r n).1 = .error f)
    (hn : n ∈ w.root.preorder) : t.StopsAt n (t.run o w r n hn) := by
  have hx : (t.begin n).execute o w r n =
      (.error f, (t.begin n).noteAll (chooseBranch t.session.vars n.children).2) := by
    rw [execute_branch hk] at hf ⊢
    exact Prod.ext hf rfl
  obtain ⟨e, he⟩ : ∃ e, (t.begin n).events = t.events ++ [.begun n] ++ [.noted e] := ⟨_, rfl⟩
  rw [run_of_error hn hx, noteAll_eq]
  refine ⟨rfl, rfl, rfl, e :: (chooseBranch t.session.vars n.children).2 ++
    [.failure .interpreter (some t.session.id)
      ("Error executing " ++ n.kind.name ++ " (" ++ n.label ++ ")") f], ?_⟩
  show (t.begin n).events ++ _ ++ [_] = _
  rw [he]
  simp only [List.append_assoc, List.map_append, List.cons_append, List.nil_append, List.map_cons]
  rfl

/-- A choice between branches goes on below the first that is open, or nowhere if none is, provided that
all branches before it can be read. If one of these cannot, the step fails as such a branch does, and the
run stops with the session as it was. Either way nothing changes but the log, and neither what stands
behind the open branch nor what is no branch matters: the choice depends on the deciding nodes alone. -/
theorem first_open_branch_is_taken (t : Turn κ) (o : Outside κ) (w : Workflow) (r : Rules) {n : Node}
    (hk : n.kind = .branch) :
    ((∀ c ∈ beforeOpen t.session.vars n.children, c.IsReadable) →
      (t.execute o w r n).1 =
        .ok ((firstOpen? t.session.vars n.children).bind Node.firstChild?)) ∧
    ((∃ c ∈ beforeOpen t.session.vars n.children, ¬ c.IsReadable) →
      (∃ c ∈ beforeOpen t.session.vars n.children, ∃ f, c.read Conditions.decode = .error f ∧
        (t.execute o w r n).1 = .error f) ∧
      ∀ hn : n ∈ w.root.preorder, t.StopsAt n (t.run o w r n hn)) ∧
    (∃ log, (t.execute o w r n).2 = t.noteAll log) ∧
    ∀ m : Node, m.kind = .branch →
      deciding t.session.vars m.children = deciding t.session.vars n.children →
        t.execute o w r m = t.execute o w r n := by
  refine ⟨fun hall => ?_, fun hsome => ?_, ⟨_, by rw [execute_branch hk]⟩, fun m hm hsame => ?_⟩
  · rw [execute_branch hk]
    exact chooseBranch_of_forall_isReadable hall
  · obtain ⟨c, hc, f, hf, hfails⟩ := chooseBranch_of_exists_not_isReadable hsome
    have hx : (t.execute o w r n).1 = .error f := by rw [execute_branch hk, hfails]
    exact ⟨⟨c, hc, f, hf, hx⟩, stopsAt_of_branch_error hk hx⟩
  · rw [execute_branch hm, execute_branch hk, ← chooseBranch_deciding, hsame, chooseBranch_deciding]

/-- The number 7 is not the text that the city is set to, and a branch without conditions is not open;
the branch that asks for the text is taken, although the last one cannot be read. Where that one comes
first, the run stops at the step. -/
theorem first_open_branch_is_taken_past_number :
    let expecting (v : Json) : Json := .arr [.obj [("hasVariable", .bool true),
      ("variable", .str "city"), ("filter_operator", .str "equal_to"), ("values", v)]]
    let leaf (id : String) : Node := ⟨some id, .action, [], []⟩
    let branch (id : String) (conditions : Json) : Node :=
      ⟨none, .ifCondition, [("conditions", conditions)], [leaf id]⟩
    let number := branch "number" (expecting (.int 7))
    let text := branch "text" (expecting (.str "7"))
    let otherwise : Node := ⟨none, .elseCondition, [], [leaf "otherwise"]⟩
    let unread := branch "unread" (.str "none")
    let n : Node := ⟨some "b", .branch, [],
      [leaf "stray", branch "empty" (.arr []), number, text, otherwise, unread]⟩
    let n' : Node := ⟨some "b", .branch, [], [number, unread, text]⟩
    let w : Workflow := ⟨n', [], "w", nofun⟩
    let r : Rules := ⟨3, 3, Rules.standardListButton⟩
    let o : Outside Unit := ⟨fun _ _ => (.ok (), [], ()), fun _ _ => (none, ()), fun _ => none⟩
    let t := Turn.start { Session.start (.ofInt 0) "a" "Ada" with vars := [("city", "7")] } ()
    n.kind = .branch ∧ (t.execute o w r n).1 = .ok (some (leaf "text")) ∧
      n'.kind = .branch ∧ (∃ f, (t.execute o w r n').1 = .error f) ∧
      t.StopsAt n' (t.run o w r n' w.root.mem_preorder_self) := by
  intro expecting leaf branch number text otherwise unread n n' w r o t
  obtain ⟨htaken, -⟩ := first_open_branch_is_taken t o w r (n := n) rfl
  obtain ⟨-, hfails, -⟩ := first_open_branch_is_taken t o w r (n := n') rfl
  have hread : ∀ c ∈ beforeOpen t.session.vars n.children, c.IsReadable := by
    have hbefore : beforeOpen t.session.vars n.children =
        [leaf "stray", branch "empty" (.arr []), number] := rfl
    rw [hbefore]
    intro c hc
    simp only [List.mem_cons, List.not_mem_nil, or_false] at hc
    rcases hc with rfl | rfl | rfl
    · exact fun h => by cases h
    · exact fun _ => ⟨_, rfl⟩
    · exact fun _ => ⟨_, rfl⟩
  have hunread : ∃ c ∈ beforeOpen t.session.vars n'.children, ¬ c.IsReadable := by
    refine ⟨unread, ?_, fun h => ?_⟩
    · have hbefore : beforeOpen t.session.vars n'.children = [number, unread] := rfl
      rw [hbefore]
      exact List.mem_cons_of_mem _ List.mem_cons_self
    · obtain ⟨g, hg⟩ := h rfl
      cases hg
  obtain ⟨⟨-, -, f, -, hf⟩, hstops⟩ := hfails hunread
  exact ⟨rfl, htaken hread, rfl, ⟨f, hf⟩, hstops w.root.mem_preorder_self⟩

end Turn

end ChatFlow
