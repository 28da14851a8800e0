import ChatFlow.Proofs.Workflow.Grammar
import ChatFlow.Proofs.Workflow.Index
import ChatFlow.Turn.Run

/-!
# The targets of jumps

A workflow is warned of jumps astray when it is loaded (`filter_warnsOfJump`), before any of them is
executed. The warning reads the target under one of its two names only, and takes any value for
an id, where the execution does neither. So the two agree if the target is given under the first
name and can be read (`jumpsAstray_iff_of_first`), and `jump_check_agrees_iff` says what happens to
the others.
-/

namespace ChatFlow

open Schema Step

/-! ### Reading a target -/

namespace Json

theorem GivesId.reference? {v : Json} {id : Option String} (h : GivesId (some v) id) :
    Workflow.reference? v = id := by
  cases h <;> rfl

theorem reference?_of_not_givesId {v : Json} (h : ∀ id, ¬ GivesId (some v) id) :
    Workflow.reference? v = some v.words := by
  cases v with
  | null => exact absurd .null (h none)
  | _ => rfl

end Json

namespace Step.Jump

variable {v : Json} {target : Option String} {fields : Assoc Json} {j : Jump}

theorem decodeTarget_eq_ok_iff : decodeTarget v = .ok target ↔ Json.GivesId (some v) target := by
  constructor
  · intro h
    cases v with
    | null => cases h; exact .null
    | int n => cases h; exact .integer n
    | str s => cases h; exact .text s
    | _ => cases h
  · rintro (_ | _ | _ | _) <;> rfl

theorem targetField_eq_ok_iff : defaulted fields ["stepId", "step_id"] none decodeTarget =
    .ok target ↔
      Json.GivesId ((Assoc.get? fields "stepId").or (Assoc.get? fields "step_id")) target := by
  rw [← map_lookup?_two]
  exact defaulted_eq_ok_iff (R := (Json.GivesId · target))
    ⟨fun h => h ▸ .absent, fun h => by cases h; rfl⟩ fun v => decodeTarget_eq_ok_iff

theorem givesId_of_decode (h : Jump.decode (.obj fields) = .ok j) :
    Json.GivesId ((Assoc.get? fields "stepId").or (Assoc.get? fields "step_id")) j.target := by
  obtain ⟨g, n, hg, -, rfl⟩ := Checked.ok_of_seq h
  obtain ⟨target, htarget, rfl⟩ := Checked.ok_of_map hg
  exact targetField_eq_ok_iff.1 htarget

end Step.Jump

namespace Node

variable {n : Node} {j : Jump} {k : String} {v : Json}

theorem givesId_of_read (h : n.read Jump.decode = .ok j) :
    Json.GivesId ((n.data.get? "stepId").or (n.data.get? "step_id")) j.target := by
  unfold read at h
  split at h
  · rename_i hj
    cases h
    exact Jump.givesId_of_decode hj
  · cases h

theorem read_of_not_givesId (hv : Gives n.data "stepId" "step_id" k v)
    (h : ∀ id, ¬ Json.GivesId (some v) id) : ∃ f, n.read Jump.decode = .error f := by
  cases hread : n.read Jump.decode with
  | error f => exact ⟨f, rfl⟩
  | ok j =>
    have htarget := givesId_of_read hread
    cases hv with
    | first hv => rw [hv, Option.some_or] at htarget; exact absurd htarget (h _)
    | second hnone hv => rw [hnone, hv, Option.none_or] at htarget; exact absurd htarget (h _)

end Node

/-! ### Executing a jump -/

namespace Turn

variable {κ : Type} {w : Workflow} {r : Rules} {n : Node} {j : Jump}

/-- The turn after a jump has been counted. -/
def counted (t : Turn κ) (n : Node) : Turn κ :=
  t.modify fun s => { s with jumpCounts := s.jumpCounts.put n.label (s.jumps n.label + 1) }

/-- A jump within its limit does not find the step that it leads to, and says so. -/
def missed (t : Turn κ) (n : Node) (target : Option String) : Progress κ :=
  (.ok none, (t.counted n).say .warning
    ("Jump " ++ n.label ++ " targets unknown step " ++ Text.quotedOption target))

theorem jump_within (hread : n.read Jump.decode = .ok j) (t : Turn κ) (w : Workflow)
    (hle : t.session.jumps n.label + 1 ≤ j.limit r.maxJumps) :
    t.jump w r n = match w.lookup? j.target with
      | some m => (.ok (some m), t.counted n)
      | none => t.missed n j.target := by
  simp only [jump, hread, if_neg (Int.not_lt.2 hle)]
  rfl

theorem jump_eq_missed_iff (hread : n.read Jump.decode = .ok j) (t : Turn κ) (w : Workflow)
    (hle : t.session.jumps n.label + 1 ≤ j.limit r.maxJumps) :
    t.jump w r n = t.missed n j.target ↔ w.lookup? j.target = none := by
  rw [jump_within hread t w hle]
  cases w.lookup? j.target with
  | none => exact ⟨fun _ => rfl, fun _ => rfl⟩
  | some m => constructor <;> intro h <;> cases h

theorem jump_eq_error_of_not_givesId {k : String} {v : Json}
    (hv : Gives n.data "stepId" "step_id" k v) (h : ∀ id, ¬ Json.GivesId (some v) id)
    (t : Turn κ) (w : Workflow) (r : Rules) : ∃ f, t.jump w r n = (.error f, t) := by
  obtain ⟨f, hf⟩ := Node.read_of_not_givesId hv h
  exact ⟨f, by simp only [jump, hf]⟩

end Turn

/-! ### Warnings -/

/-- Whether an entry warns of a jump when a workflow is loaded: its first words tell. -/
def Log.Entry.warnsOfJump (e : Log.Entry) : Bool :=
  "Jump step ".toList.isPrefixOf e.message.toList

namespace Workflow

variable {definition : Json} {strict : Bool} {name : Option String} {w : Workflow}
  {log : List Log.Entry} {n : Node} {ns : List Node} {index ix : Assoc Node}

theorem warnsOfJump_astrayWarning (n : Node) : (astrayWarning n).warnsOfJump = true := by
  have hmessage : (astrayWarning n).message = "Jump step " ++ (Text.quotedOption n.id ++
      (" points to unknown step " ++ (jumpTarget n).display)) := by
    rw [← String.append_assoc, ← String.append_assoc]; rfl
  rw [Log.Entry.warnsOfJump, hmessage, String.toList_append, List.isPrefixOf_iff_prefix]
  exact List.prefix_append _ _

theorem not_warnsOfJump_of_indexOnto (h : indexOnto strict index ns = .ok (ix, log)) :
    ∀ e ∈ log, ¬ e.warnsOfJump := by
  induction ns generalizing index log with
  | nil => cases h; exact fun e he => by cases he
  | cons n ns ih =>
    rw [indexOnto] at h
    split at h
    · exact ih h
    · split at h
      · exact ih h
      · split at h
        · cases h
        · split at h
          · cases h
          · rename_i hrest
            cases h
            refine List.forall_mem_cons.2 ⟨?_, ih hrest⟩
            simp [Log.Entry.warnsOfJump, Log.Entry.plain]

/-- A workflow that is loaded is warned of its jumps astray, in the order of a walk. -/
theorem filter_warnsOfJump (h : ofDefinition definition strict name = .ok (w, log)) :
    log.filter Log.Entry.warnsOfJump = (w.root.nodes.filter w.jumpsAstray).map astrayWarning := by
  obtain ⟨log', hix, rfl⟩ := index?_of_ofDefinition h
  have hbefore : log'.filter Log.Entry.warnsOfJump = [] :=
    List.filter_eq_nil_iff.2 (not_warnsOfJump_of_indexOnto hix)
  have hjumps : w.jumpWarnings.filter Log.Entry.warnsOfJump = w.jumpWarnings := by
    rw [List.filter_eq_self]
    intro e he
    obtain ⟨n, -, rfl⟩ := List.mem_map.1 he
    exact warnsOfJump_astrayWarning n
  -- What is said of the workflow as a whole begins with other words.
  rw [List.filter_append, hbefore, List.nil_append, report, List.filter_append, List.filter_append,
    hjumps, jumpWarnings]
  split <;> simp [Log.Entry.warnsOfJump, Log.Entry.plain]

theorem jumpsAstray_iff (hk : n.kind = .jump) :
    w.jumpsAstray n = true ↔ w.lookup? (reference? (jumpTarget n)) = none := by
  simp [jumpsAstray, hk]

theorem jumpsAstray_of_first_eq_none (hk : n.kind = .jump) (h : n.data.get? "stepId" = none) :
    w.jumpsAstray n = true := by
  rw [jumpsAstray_iff hk, jumpTarget, h]
  rfl

theorem jumpsAstray_iff_of_first {j : Jump} (hk : n.kind = .jump)
    (hread : n.read Jump.decode = .ok j) (hfirst : n.data.get? "stepId" ≠ none) :
    w.jumpsAstray n = true ↔ w.lookup? j.target = none := by
  obtain ⟨v, hv⟩ := Option.ne_none_iff_exists'.1 hfirst
  have htarget := Node.givesId_of_read hread
  rw [hv, Option.some_or] at htarget
  rw [jumpsAstray_iff hk, jumpTarget, hv, Option.getD_some, htarget.reference?]

/-- A jump with a value for its target that is no id is not astray exactly if the value stands under
the first name and some node has its words for an id. -/
theorem jumpsAstray_eq_false_iff (h : ofDefinition definition strict name = .ok (w, log))
    (hk : n.kind = .jump) {k : String} {v : Json} (hv : Gives n.data "stepId" "step_id" k v)
    (hid : ∀ id, ¬ Json.GivesId (some v) id) :
    w.jumpsAstray n = false ↔ k = "stepId" ∧ ∃ m ∈ w.root.nodes, m.id = some v.words := by
  rw [← Bool.not_eq_true]
  cases hv with
  | first hv =>
    have href : reference? (jumpTarget n) = some v.words := by
      rw [jumpTarget, hv, Option.getD_some]
      exact Json.reference?_of_not_givesId hid
    rw [jumpsAstray_iff hk, href, lookup?_eq_none_iff h]
    simp only [not_forall, not_not, exists_prop, true_and]
  | second hnone hv =>
    simp only [jumpsAstray_of_first_eq_none hk hnone, not_true_eq_false, false_iff, not_and]
    exact fun hname => absurd hname (by decide)

/-- The check of the jumps when a workflow is loaded, against their execution. The jumps that it
warns of are those astray. A jump that can be read is astray exactly if its execution, within its
limit, does not find a step and says so, or if its target is not given under the first of its two
names. A jump whose target is no id always fails, but is not astray if the target is given under the
first name and some node has the words of that value for its id. -/
theorem jump_check_agrees_iff {κ : Type} (h : ofDefinition definition strict name = .ok (w, log)) :
    log.filter Log.Entry.warnsOfJump = (w.root.nodes.filter w.jumpsAstray).map astrayWarning ∧
    ∀ n ∈ w.root.nodes, n.kind = .jump →
      (∀ j : Jump, n.read Jump.decode = .ok j → ∀ (t : Turn κ) (o : Outside κ) (r : Rules),
        t.session.jumps n.label + 1 ≤ j.limit r.maxJumps →
          (w.jumpsAstray n = true ↔
            n.data.get? "stepId" = none ∨ t.execute o w r n = t.missed n j.target)) ∧
      ∀ k v, Gives n.data "stepId" "step_id" k v → (∀ id, ¬ Json.GivesId (some v) id) →
        (∀ (t : Turn κ) (o : Outside κ) (r : Rules), ∃ f, t.execute o w r n = (.error f, t)) ∧
        (w.jumpsAstray n = false ↔ k = "stepId" ∧ ∃ m ∈ w.root.nodes, m.id = some v.words) := by
  refine ⟨filter_warnsOfJump h, fun n _ hk => ⟨fun j hread t o r hle => ?_, fun k v hv hid =>
    ⟨fun t o r => ?_, jumpsAstray_eq_false_iff h hk hv hid⟩⟩⟩
  · have hexecute : t.execute o w r n = t.jump w r n := by rw [Turn.execute, hk]
    rw [hexecute, Turn.jump_eq_missed_iff hread t w hle]
    by_cases hfirst : n.data.get? "stepId" = none
    · simp only [jumpsAstray_of_first_eq_none hk hfirst, hfirst, true_or]
    · rw [jumpsAstray_iff_of_first hk hread hfirst, or_iff_right hfirst]
  · rw [Turn.execute, hk]
    exact Turn.jump_eq_error_of_not_givesId hv hid t w r

/-- A target under the second name is found, but the jump is warned of; a truth value for a target
cannot be read, but nobody is warned of that as there is a node with its word for an id. -/
theorem jump_check_agrees_iff_misread :
    let second : Node := ⟨some "j", .jump, [("step_id", .str "a")], []⟩
    let truth : Node := ⟨some "k", .jump, [("stepId", .bool true)], []⟩
    let a : Node := ⟨some "a", .action, [], []⟩
    let node (id kind : String) (data : Assoc Json) : Json :=
      .obj [("id", .str id), ("type", .str kind), ("data", .obj data)]
    let definition : Json := .obj [("type", .str "Root"), ("childs", .arr [
      node "a" "ActionStep" [], node "True" "ActionStep" [], node "j" "JumpStep" second.data,
      node "k" "JumpStep" truth.data])]
    let o : Outside Unit := ⟨fun _ _ => (.ok (), [], ()), fun _ _ => (none, ()), fun _ => none⟩
    let r : Rules := ⟨10, 3, Rules.standardListButton⟩
    let t : Turn Unit := Turn.start (Session.start (.ofInt 0) "c" "Sara") ()
    ∃ w log, ofDefinition definition true none = .ok (w, log) ∧
      log.filter Log.Entry.warnsOfJump = [astrayWarning second] ∧
      w.jumpsAstray second = true ∧ t.execute o w r second = (.ok (some a), t.counted second) ∧
      w.jumpsAstray truth = false ∧ ∃ f, t.execute o w r truth = (.error f, t) := by
  intro second truth a node definition o r t
  let named : Node := ⟨some "True", .action, [], []⟩
  let root : Node := ⟨none, .other "Root", [], [a, named, second, truth]⟩
  obtain ⟨w, hload, hnodes, hastray, hgo⟩ : ∃ w : Workflow,
      ofDefinition definition true none = .ok (w, w.report) ∧
      w.root.nodes = [root, a, named, second, truth] ∧
      w.root.nodes.filter w.jumpsAstray = [second] ∧
      t.execute o w r second = (.ok (some a), t.counted second) := ⟨_, rfl, rfl, rfl, rfl⟩
  obtain ⟨hlog, hjumps⟩ := jump_check_agrees_iff (κ := Unit) hload
  have hsecond := (hjumps second (by rw [hnodes]; simp) rfl).1 ⟨some "a", none⟩ rfl t o r
    (by decide)
  obtain ⟨hfail, htruth⟩ := (hjumps truth (by rw [hnodes]; simp) rfl).2 "stepId" (.bool true)
    (.first rfl) (fun id h => by cases h)
  refine ⟨w, w.report, hload, ?_, hsecond.2 (.inl rfl), hgo,
    htruth.2 ⟨rfl, named, by rw [hnodes]; simp, rfl⟩, hfail t o r⟩
  rw [hlog, hastray]
  rfl

end Workflow

end ChatFlow
