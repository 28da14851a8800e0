import ChatFlow.Proofs.Choice.Selection

/-!
# What is accepted is what was offered

The message that asks a question and the judgement of the answer are made apart from each other.
`Content.labels` are the labels that a customer can see on a message. Where the list that a question
brings along has the parts it should (`Question.IsWellFormed`), a reply to a choice is accepted exactly
if it is one of the labels, or an option in full that the list shows cut (`accepted_iff_offered`).
-/

namespace ChatFlow

open Step (Question QuestionData fitsButtons rowLabel rowTitle? sectionTitles)

/-! ### Labels on a message -/

namespace Json

/-- The titles of the rows of a list, in all of its sections. -/
def rowTitles (interactive : Json) : List String :=
  ((((interactive.field? "action").getD .null).items "sections").flatMap (·.items "rows")).filterMap
    (·.textAt? "title")

/-- There is nothing under a field, or a list of objects. -/
def HoldsObjects (v : Json) (k : String) : Prop :=
  ((v.field? k).getD .null).isEmpty ∨
    ∃ vs, v.field? k = some (.arr vs) ∧ ∀ u ∈ vs, ∃ fields, u = .obj fields

/-- What an interactive list has to look like: the action is an object or nothing, and sections and
rows are lists of objects or nothing. -/
structure IsListMessage (interactive : Json) : Prop where
  action : ((interactive.field? "action").getD .null).isEmpty ∨
    ∃ fields, interactive.field? "action" = some (.obj fields)
  sections : ((interactive.field? "action").getD .null).HoldsObjects "sections"
  rows : ∀ s ∈ ((interactive.field? "action").getD .null).items "sections", s.HoldsObjects "rows"

theorem items_of_isEmpty {v : Json} (h : v.isEmpty) (k : String) : v.items k = [] := by
  cases v with
  | obj fields => rw [List.isEmpty_iff.1 h]; rfl
  | _ => rfl

theorem items_of_field_isEmpty {v : Json} {k : String} (h : ((v.field? k).getD .null).isEmpty) :
    v.items k = [] := by
  unfold items
  split
  · rename_i vs heq
    rw [heq] at h
    exact List.isEmpty_iff.1 h
  · rfl

theorem memberEach_eq_items {fields : Assoc Json} {k : String}
    (h : (obj fields).HoldsObjects k) : (obj fields).memberEach k = .ok ((obj fields).items k) := by
  have hmember : (obj fields).memberEach k =
      each ((((obj fields).field? k).getD .null).ifEmpty (arr [])) := rfl
  rcases h with hempty | ⟨vs, hvs, -⟩
  · rw [hmember, items_of_field_isEmpty hempty, ifEmpty, if_pos hempty]
    rfl
  · rw [hmember, items, hvs]
    cases vs <;> rfl

theorem exists_obj_of_mem_items {v u : Json} {k : String} (h : v.HoldsObjects k)
    (hu : u ∈ v.items k) : ∃ fields, u = .obj fields := by
  rcases h with hempty | ⟨vs, hvs, hall⟩
  · rw [items_of_field_isEmpty hempty] at hu
    cases hu
  · rw [items, hvs] at hu
    exact hall u hu

end Json

/-- The labels that can be seen on a message: the titles on its buttons, or of the rows of its list. -/
def Content.labels : Content → List String
  | .text _ => []
  | .buttons _ options => (options.zipIdx.map fun (o, i) => Channel.optionButton o i).filterMap
      (·.textAt? "title")
  | .list interactive => (Json.obj interactive).rowTitles

theorem labels_buttons (text : String) (options : List String) :
    (Content.buttons text options).labels = options.map (Text.clip Step.buttonTitleLength) := by
  rw [Content.labels, List.filterMap_map]
  exact filterMap_zipIdx (fun p => rfl) options

theorem labels_optionsList (r : Rules) (text : String) (options : List String) :
    (Content.list (r.optionsList text options)).labels = options.map rowLabel := by
  have hrows : (Content.list (r.optionsList text options)).labels =
      (options.zipIdx.map Graph.rowOf ++ []).filterMap (Json.textAt? · "title") := rfl
  rw [hrows, List.append_nil, List.filterMap_map]
  exact filterMap_zipIdx (fun p => rfl) options

/-! ### The rows of a list -/

namespace Step

theorem sectionTitles_of_holds {fields : Assoc Json} (h : (Json.obj fields).HoldsObjects "rows") :
    sectionTitles (.obj fields) =
      .ok (((Json.obj fields).items "rows").filterMap (·.field? "title")) := by
  have hrows : ((Json.obj fields).items "rows").mapM rowTitle? =
      .ok (((Json.obj fields).items "rows").map (·.field? "title")) := by
    refine mapM_of_ok fun u hu => ?_
    obtain ⟨fs, rfl⟩ := Json.exists_obj_of_mem_items h hu
    rfl
  rw [sectionTitles, Json.memberEach_eq_items h]
  simp only [bind, Except.bind, hrows, pure, Except.pure, List.filterMap_map]
  rfl

namespace Question

/-- The list that a question brings along, if any, looks like one. -/
def IsWellFormed (q : Question) : Prop :=
  ∀ fields, q.interactive = some fields → (Json.obj fields).IsListMessage

variable {q : Question}

theorem rowTitles_eq (h : q.IsWellFormed) : ∃ titles, q.rowTitles = .ok titles ∧
    titles.filterMap Json.text? = (Json.obj (q.interactive.getD [])).rowTitles := by
  cases hi : q.interactive with
  | none => exact ⟨[], by rw [rowTitles, hi], rfl⟩
  | some fields =>
    cases hempty : fields.isEmpty with
    | true =>
      refine ⟨[], by rw [rowTitles, hi]; exact if_pos hempty, ?_⟩
      rw [Option.getD_some, List.isEmpty_iff.1 hempty]
      rfl
    | false =>
      have hlist := h fields hi
      obtain ⟨action, haction, hobj, hitems⟩ : ∃ action,
          (Json.obj fields).memberObject "action" = .ok (.obj action) ∧
          (Json.obj action).HoldsObjects "sections" ∧ (Json.obj action).items "sections" =
            (((Json.obj fields).field? "action").getD .null).items "sections" := by
        have hmember : (Json.obj fields).memberObject "action" =
            .ok ((((Json.obj fields).field? "action").getD .null).ifEmpty (.obj [])) := rfl
        rcases hlist.action with hnothing | ⟨action, haction⟩
        · refine ⟨[], ?_, Or.inl rfl, (Json.items_of_isEmpty hnothing _).symm⟩
          rw [hmember, Json.ifEmpty, if_pos hnothing]
        · refine ⟨action, ?_, ?_, ?_⟩
          · rw [hmember, haction]
            cases action <;> rfl
          · have := hlist.sections
            rwa [haction] at this
          · rw [haction]; rfl
      have hsections : ((Json.obj action).items "sections").mapM sectionTitles =
          .ok (((Json.obj action).items "sections").map fun s =>
            (s.items "rows").filterMap (·.field? "title")) := by
        refine mapM_of_ok fun s hs => ?_
        have hrows := hlist.rows s (hitems ▸ hs)
        obtain ⟨fs, rfl⟩ := Json.exists_obj_of_mem_items hobj hs
        exact sectionTitles_of_holds hrows
      refine ⟨(((Json.obj action).items "sections").map fun s =>
        (s.items "rows").filterMap (·.field? "title")).flatten, ?_, ?_⟩
      · rw [rowTitles, hi]
        simp only [hempty, Bool.false_eq_true, if_false, haction, bind, Except.bind,
          Json.memberEach_eq_items hobj, hsections, pure, Except.pure]
      · rw [Option.getD_some, Json.rowTitles, ← hitems, ← List.flatMap_def, List.filterMap_flatMap,
          List.filterMap_flatMap]
        congr 1
        funext s
        rw [List.filterMap_filterMap]
        rfl

theorem accepts_multiple (hform : q.form = .multiple) (reply : String) :
    q.accepts reply = .ok (q.selected? reply).isSome := by
  rw [accepts, hform]

/-- A reply selects an option if it is one, or the label of one where they are shown as a list. -/
theorem selected?_isSome_iff (reply : String) : (q.selected? reply).isSome ↔
    reply ∈ q.options ∨ fitsButtons q.options = false ∧ reply ∈ q.options.map rowLabel := by
  rw [selected?]
  split
  · rename_i hmem
    simp only [List.contains_iff_mem] at hmem
    simp [hmem]
  · rename_i hmem
    simp only [List.contains_iff_mem] at hmem
    split
    · rename_i hfits
      simp [hmem, hfits]
    · rename_i hfits
      simp [hmem, hfits]

end Question

end Step

/-! ### What is offered -/

namespace Rules

variable (r : Rules) {q : Question} (text : String)

theorem prompt_of_listRow (hform : q.form = .listRow) :
    r.prompt q text = match q.interactive.getD [] with
      | [] => .text text
      | f :: fs => .list (f :: fs) := by
  rcases hi : q.interactive with - | - | ⟨f, fs⟩ <;> simp [prompt, hform, hi]

theorem prompt_of_nothing (hform : q.form = .multiple) (hnil : q.options = []) :
    r.prompt q text = .text text := by
  simp [prompt, hform, hnil]

theorem labels_of_multiple (hform : q.form = .multiple) :
    (r.prompt q text).labels =
      if fitsButtons q.options then q.options else q.options.map rowLabel := by
  by_cases hnil : q.options = []
  · rw [r.prompt_of_nothing text hform hnil, hnil]
    rfl
  · rw [r.prompt_of_multiple text hform hnil]
    split
    · rename_i hfits
      rw [labels_buttons]
      exact (List.map_congr_left fun o ho => Step.clip_eq_of_fitsButtons hfits ho).trans
        (List.map_id _)
    · exact labels_optionsList r text q.options

theorem labels_of_listRow (hform : q.form = .listRow) :
    (r.prompt q text).labels = (Json.obj (q.interactive.getD [])).rowTitles := by
  rw [r.prompt_of_listRow text hform]
  cases q.interactive.getD [] <;> rfl

end Rules

/-- Whether the options of a question are shown as a list, which cuts the long ones. -/
def Step.Question.ShowsList (q : Question) : Prop :=
  q.form = .multiple ∧ fitsButtons q.options = false

theorem accepts_multiple_iff (r : Rules) {q : Question} (hform : q.form = .multiple)
    (text reply : String) : (q.selected? reply).isSome ↔
      reply ∈ (r.prompt q text).labels ∨ q.ShowsList ∧ reply ∈ q.options := by
  rw [Question.selected?_isSome_iff, r.labels_of_multiple text hform, Question.ShowsList]
  cases hfits : fitsButtons q.options with
  | true => simp
  | false => simp [hform, or_comm]

theorem accepts_listRow_iff (r : Rules) {q : Question} (hq : q.IsWellFormed)
    (hform : q.form = .listRow) (text reply : String) : ∃ v, q.accepts reply = .ok v ∧
      (v = true ↔ reply ∈ (r.prompt q text).labels) := by
  obtain ⟨titles, htitles, htexts⟩ := Question.rowTitles_eq hq
  refine ⟨titles.any fun t => t.text? == some reply, ?_, ?_⟩
  · rw [Question.accepts, hform]
    simp only [htitles, bind, Except.bind, pure, Except.pure]
  · rw [r.labels_of_listRow text hform, ← htexts, List.mem_filterMap, List.any_eq_true]
    simp only [beq_iff_eq]

theorem Turn.messages_of_ask {κ : Type} {t t' : Turn κ} {o : Outside κ} {r : Rules} {n : Node}
    {d : QuestionData} (hd : n.read QuestionData.decode = .ok d)
    (h : t.ask o r n = (.ok none, t')) : t'.messages = t.messages ++
      [⟨t.session.id, r.prompt d.question (t.session.fill d.question.text)⟩] := by
  simp only [ask, hd] at h
  split at h
  · cases h
  · rename_i t₁ hsend
    cases h
    exact (messages_of_send hsend :)

/-- What is accepted is what was offered. Every reply to a question is judged, and it is accepted
exactly if: it is a label on the message that asks the question, or in full an option that is shown as
the row of a list, where there is something to choose; it has a character that is not blank, where
any text will do; and never, where the form of the answer is unknown. Nothing is accepted where a
choice has nothing to offer and is asked in plain text. The message is the one that is sent when the
question is asked. -/
theorem accepted_iff_offered (r : Rules) {q : Question} (hq : q.IsWellFormed)
    (text reply : String) :
    (∃ v, q.accepts reply = .ok v ∧ (v = true ↔
      match q.form with
      | .multiple | .listRow =>
        reply ∈ (r.prompt q text).labels ∨ q.ShowsList ∧ reply ∈ q.options
      | .text => ∃ c ∈ reply.toList, Text.isBlank c = false
      | .other _ => False)) ∧
    (q.form = .multiple ∨ q.form = .listRow → r.prompt q text = .text text →
      q.accepts reply = .ok false) ∧
    ∀ (κ : Type) (t t' : Turn κ) (o : Outside κ) (n : Node) (d : QuestionData),
      n.read QuestionData.decode = .ok d → d.question = q → t.ask o r n = (.ok none, t') →
        t'.messages = t.messages ++ [⟨t.session.id, r.prompt q (t.session.fill q.text)⟩] := by
  refine ⟨?_, fun hchoice hplain => ?_, fun κ t t' o n d hd hquestion hask => ?_⟩
  · cases hform : q.form with
    | multiple =>
      exact ⟨_, Question.accepts_multiple hform reply, accepts_multiple_iff r hform text reply⟩
    | listRow =>
      obtain ⟨v, hv, hiff⟩ := accepts_listRow_iff r hq hform text reply
      have hlist : ¬ q.ShowsList := fun h => by rw [h.1] at hform; cases hform
      exact ⟨v, hv, by simp [hiff, hlist]⟩
    | text =>
      refine ⟨_, by rw [Question.accepts, hform], ?_⟩
      simp [Text.allBlank]
    | other name => exact ⟨false, by rw [Question.accepts, hform], by simp⟩
  · have hnone : (r.prompt q text).labels = [] := by rw [hplain]; rfl
    rcases hchoice with hform | hform
    · have hselected := accepts_multiple_iff r hform text reply
      have hnil : q.options = [] := by
        by_contra hne
        rw [r.prompt_of_multiple text hform hne] at hplain
        split at hplain <;> cases hplain
      rw [hnone, hnil] at hselected
      rw [Question.accepts_multiple hform]
      simpa using hselected
    · obtain ⟨v, hv, hiff⟩ := accepts_listRow_iff r hq hform text reply
      rw [hnone] at hiff
      rw [hv]
      simpa using hiff
  · subst hquestion
    exact Turn.messages_of_ask hd hask

/-- A list with a section that has no rows, a row whose title is no text, and one row with a title: that
title is accepted, and nothing else. -/
theorem accepted_iff_offered_sparse_list :
    let row : Json := .obj [("id", .str "a"), ("title", .str "Balcony")]
    let fields : Assoc Json := [("type", .str "list"), ("action", .obj [("sections", .arr [
      .obj [("title", .str "Empty")], .obj [("rows", .arr [.obj [("title", .int 7)], row])]])])]
    let q : Question := ⟨.listRow, "Where?", ["Stage"], some fields⟩
    let r : Rules := ⟨3, 3, Rules.standardListButton⟩
    q.IsWellFormed ∧ r.prompt q "Where?" = .list fields ∧
      (r.prompt q "Where?").labels = ["Balcony"] ∧
      q.accepts "Balcony" = .ok true ∧ q.accepts "Stage" = .ok false := by
  intro row fields q r
  have hq : q.IsWellFormed := by
    rintro _ ⟨⟩
    refine ⟨Or.inr ⟨_, rfl⟩, Or.inr ⟨_, rfl, by simp⟩, fun s hs => ?_⟩
    have hs : s ∈ [Json.obj [("title", .str "Empty")],
      Json.obj [("rows", .arr [.obj [("title", .int 7)], row])]] := hs
    rcases List.mem_pair.1 hs with rfl | rfl
    · exact Or.inl rfl
    · exact Or.inr ⟨_, rfl, by simp [row]⟩
  have hlabels : (r.prompt q "Where?").labels = ["Balcony"] := rfl
  refine ⟨hq, rfl, hlabels, ?_, ?_⟩
  · obtain ⟨⟨v, hv, hiff⟩, -⟩ := accepted_iff_offered r hq "Where?" "Balcony"
    rw [hv, hiff.2 (Or.inl (by rw [hlabels]; exact List.mem_singleton_self _))]
  · obtain ⟨⟨v, hv, hiff⟩, -⟩ := accepted_iff_offered r hq "Where?" "Stage"
    have hlist : ¬ q.ShowsList := fun h => by cases h.1
    rw [hlabels] at hiff
    have hv' : v = false := by simpa [q, hlist] using hiff
    rw [hv, hv']

end ChatFlow
