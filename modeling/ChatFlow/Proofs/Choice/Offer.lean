import ChatFlow.Channel
import ChatFlow.Proofs.Graph.Outcome
import ChatFlow.Turn.Question

/-!
# Options on their way to the customer

A question with options is sent as buttons or as a list. `Channel.Posts` says that a message comes
down to the delivery of one payload, so that nothing else can keep it from being sent, and
`Graph.choices` reads off a payload what the customer can tap. The options of a question go out as
`Rules.offer`, in which they can all be tapped, each under its label.
-/

namespace ChatFlow

open Step (Question fitsButtons rowLabel)

/-! ### Labels -/

namespace Step

variable {options : List String} {o : String}

theorem size_le_of_fitsButtons (h : fitsButtons options) (ho : o ∈ options) :
    Text.size o ≤ buttonTitleLength := by
  simp only [fitsButtons, Bool.and_eq_true, List.all_eq_true, decide_eq_true_eq] at h
  exact h.2 o ho

theorem length_le_of_fitsButtons (h : fitsButtons options) : options.length ≤ maxButtons := by
  simp only [fitsButtons, Bool.and_eq_true, decide_eq_true_eq] at h
  exact h.1

theorem clip_eq_of_fitsButtons (h : fitsButtons options) (ho : o ∈ options) :
    Text.clip buttonTitleLength o = o :=
  Text.clip_eq_self (size_le_of_fitsButtons h ho)

theorem rowLabel_eq_of_fitsButtons (h : fitsButtons options) (ho : o ∈ options) : rowLabel o = o :=
  Text.clip_eq_self (Nat.le_trans (size_le_of_fitsButtons h ho) (by decide))

theorem rowLabel_rowLabel (o : String) : rowLabel (rowLabel o) = rowLabel o :=
  Text.clip_eq_self (Text.size_clip_le ..)

theorem rowLabel_ne_empty (h : o ≠ "") : rowLabel o ≠ "" := by
  intro hlabel
  have hcs : o.toList ≠ [] := fun hcs => h (String.toList_eq_nil_iff.1 hcs)
  obtain ⟨c, cs, hcons⟩ := List.exists_cons_of_ne_nil hcs
  obtain ⟨rest, ls, hletters⟩ := Text.letters_eq_cons c cs
  have hnil : (rowLabel o).toList = [] := by rw [hlabel]; rfl
  simp [rowLabel, Text.clip, hcons, hletters, rowTitleLength] at hnil

end Step

/-- What a numbered list shows of its items, where the numbers do not show. -/
theorem filterMap_zipIdx {α : Type} {f : String → α} {g : String × Nat → Option α}
    (h : ∀ p, g p = some (f p.1)) (options : List String) :
    options.zipIdx.filterMap g = options.map f := by
  have hg : g = some ∘ fun p => f p.1 := funext h
  calc options.zipIdx.filterMap g
      = options.zipIdx.map (fun p => f p.1) := by rw [hg, List.filterMap_eq_map]
    _ = (options.zipIdx.map (·.1)).map f := (List.map_map ..).symm
    _ = options.map f := by rw [List.zipIdx_map_fst]

/-! ### What can be tapped -/

namespace Json

/-- The items of the list in a field. -/
def items (v : Json) (k : String) : List Json :=
  match v.field? k with
  | some (.arr vs) => vs
  | _ => []

def textAt? (v : Json) (k : String) : Option String := (v.field? k).bind text?

end Json

namespace Graph

/-- The title on a button. -/
def buttonTitle? (b : Json) : Option String := (b.field? "reply").bind (·.textAt? "title")

/-- The titles that a payload offers to tap: those of its buttons, or of the rows of its list. -/
def choices (payload : Json) : List String :=
  let action := ((payload.field? "interactive").bind (·.field? "action")).getD .null
  (action.items "buttons").filterMap buttonTitle? ++
    ((action.items "sections").flatMap (·.items "rows")).filterMap (·.textAt? "title")

/-- The button of an option: its number is its id. -/
def buttonOf (p : String × Nat) : Button := ⟨.str ("opt_" ++ toString p.2), .str p.1⟩

/-- The row of an option. -/
def rowOf (p : String × Nat) : Json :=
  .obj [("id", .str ("opt_" ++ toString p.2)), ("title", .str (rowLabel p.1))]

theorem choices_buttons (recipient : Recipient) (text : String) (options : List String) :
    choices (interactivePayload recipient
      (buttonsContent text (options.zipIdx.map buttonOf) none)) = options := by
  have haction (bs : List Button) : choices (interactivePayload recipient (buttonsContent text bs none)) =
      (bs.map (·.toJson)).filterMap buttonTitle? ++ [] :=
    rfl
  rw [haction, List.append_nil, List.map_map, List.filterMap_map]
  exact (filterMap_zipIdx (fun p => rfl) options).trans (List.map_id _)

theorem choices_list (recipient : Recipient) (r : Rules) (text : String) (options : List String) :
    choices (interactivePayload recipient (.obj (r.optionsList text options))) =
      options.map rowLabel := by
  have haction : choices (interactivePayload recipient (.obj (r.optionsList text options))) =
      (options.zipIdx.map rowOf ++ []).filterMap (Json.textAt? · "title") := rfl
  rw [haction, List.append_nil, List.filterMap_map]
  exact filterMap_zipIdx (fun p => rfl) options

theorem mapM_ofJson_optionButton (ps : List (String × Nat))
    (h : ∀ p ∈ ps, Text.clip Step.buttonTitleLength p.1 = p.1) :
    (ps.map fun (o, i) => Channel.optionButton o i).mapM Button.ofJson = .ok (ps.map buttonOf) := by
  rw [List.mapM_map]
  refine mapM_of_ok fun p hp => ?_
  have hbutton : Button.ofJson (Channel.optionButton p.1 p.2) =
      .ok ⟨.str ("opt_" ++ toString p.2), .str (Text.clip Step.buttonTitleLength p.1)⟩ := rfl
  rwa [h p hp] at hbutton

/-! ### Delivery -/

/-- The provider takes a payload: it can be posted, and the answer is that of a message sent. -/
structure Accepts {κ : Type} (a : Account) (wire : Wire κ) (s : κ) (payload : Json) : Prop where
  taken : ∃ post reply s' bytes data id, Post.ofPayload a payload = .ok post ∧
    post.url.isAbsolute ∧ wire.post s post = (.answered reply, s') ∧ reply.status = 200 ∧
    reply.bytes = .ok bytes ∧ answerData wire.codecs reply bytes = .ok data ∧
    messageId data = .ok id

theorem Accepts.deliver {κ : Type} {a : Account} {wire : Wire κ} {s : κ} {payload : Json}
    (h : Accepts a wire s payload) (what phone : String) :
    ∃ data id log s', messageId data = .ok id ∧
      (Client.account a).deliver wire s payload what phone = (.ok data, log, s') := by
  obtain ⟨post, reply, s', bytes, data, id, hpost, habs, hwire, hstatus, hbytes, hdata, hid⟩ := h.taken
  exact ⟨data, id, note .info ("Sent " ++ what ++ " to " ++ phone), s', hid, by
    simp [Client.deliver, Client.judge, hpost, habs, hwire, hstatus, hbytes, hdata]⟩

end Graph

namespace Channel

variable {κ σ : Type} {c : Channel κ σ} {a : Graph.Account}

/-- Sending a message comes down to the delivery of one payload: nothing else is checked, and what is
kept of the message is known. -/
def Posts (c : Channel κ σ) (m : Outbound) (payload : Json) : Prop :=
  ∃ what kept, ∀ w, c.send w m = c.dispatch w m.recipient
    (fun wire s => c.client.deliver wire s payload what m.recipient) (.ok kept)

theorem posts_buttons (ha : c.client = .account a) (phone text : String) {options : List String}
    (hne : options ≠ []) (hfits : fitsButtons options) :
    c.Posts ⟨phone, .buttons text options⟩ (Graph.interactivePayload { phone }
      (Graph.buttonsContent text (options.zipIdx.map Graph.buttonOf) none)) := by
  refine ⟨"interactive buttons", .str (text ++ "\n" ++ " | ".intercalate options), fun w => ?_⟩
  have hlen := Step.length_le_of_fitsButtons hfits
  have hcount : ¬ (options.isEmpty || options.length > Step.maxButtons) = true := by
    simp [List.isEmpty_iff, hne, hlen]
  have hread := Graph.mapM_ofJson_optionButton options.zipIdx fun p hp =>
    Step.clip_eq_of_fitsButtons hfits (List.fst_mem_of_mem_zipIdx hp)
  have hmax : ¬ (options.zipIdx.map fun (o, i) => optionButton o i).length >
      Graph.maxReplyButtons := by
    rw [List.length_map, List.length_zipIdx]
    exact Nat.not_lt.2 hlen
  simp only [send, sendOptions]
  rw [if_neg hcount, ha]
  simp only [Graph.Client.sendButtons, reduceCtorEq, if_false, if_neg hmax, hread]

theorem posts_list (r : Rules) (phone text : String) (options : List String) :
    c.Posts ⟨phone, .list (r.optionsList text options)⟩
      (Graph.interactivePayload { phone } (.obj (r.optionsList text options))) :=
  ⟨"interactive list", (Json.str text).ifEmpty (.str "[Interactive List]"), fun _ => rfl⟩

theorem Posts.send {m : Outbound} {payload : Json} (h : c.Posts m payload)
    (ha : c.client = .account a) {w : World κ σ}
    (hacc : Graph.Accepts a c.wire w.wire payload) :
    ∃ id, (c.send w m).1 = .ok id := by
  obtain ⟨what, kept, h⟩ := h
  obtain ⟨data, id, log, s', hid, hsent⟩ := hacc.deliver what m.recipient
  refine ⟨id, ?_⟩
  rw [h, dispatch, ha, hsent]
  simp only [hid]

end Channel

namespace Rules

/-- The payload that offers the options of a question. -/
def offer (r : Rules) (options : List String) (phone text : String) : Json :=
  Graph.interactivePayload { phone } <|
    if fitsButtons options then
      Graph.buttonsContent text (options.zipIdx.map Graph.buttonOf) none
    else .obj (r.optionsList text options)

theorem prompt_of_multiple (r : Rules) {q : Question} (text : String) (hform : q.form = .multiple)
    (hne : q.options ≠ []) :
    r.prompt q text = if fitsButtons q.options then .buttons text q.options
      else .list (r.optionsList text q.options) := by
  obtain ⟨o, os, hos⟩ := List.exists_cons_of_ne_nil hne
  simp [prompt, hform, hos]

theorem choices_offer (r : Rules) (options : List String) (phone text : String) :
    Graph.choices (r.offer options phone text) = options.map rowLabel := by
  by_cases hfits : fitsButtons options
  · rw [offer, if_pos hfits, Graph.choices_buttons]
    exact ((List.map_congr_left fun o ho => Step.rowLabel_eq_of_fitsButtons hfits ho).trans
      (List.map_id _)).symm
  · rw [offer, if_neg hfits, Graph.choices_list]

theorem choices_offer_of_fitsButtons (r : Rules) {options : List String} (phone text : String)
    (hfits : fitsButtons options) : Graph.choices (r.offer options phone text) = options := by
  rw [offer, if_pos hfits, Graph.choices_buttons]

theorem posts_offer {κ σ : Type} {c : Channel κ σ} {a : Graph.Account}
    (ha : c.client = .account a) (r : Rules) {q : Question} (hform : q.form = .multiple)
    (hne : q.options ≠ []) (phone text : String) :
    c.Posts ⟨phone, r.prompt q text⟩ (r.offer q.options phone text) := by
  rw [r.prompt_of_multiple text hform hne]
  by_cases hfits : fitsButtons q.options
  · rw [if_pos hfits, offer, if_pos hfits]
    exact Channel.posts_buttons ha phone text hne hfits
  · rw [if_neg hfits, offer, if_neg hfits]
    exact Channel.posts_list r phone text q.options

end Rules

end ChatFlow
