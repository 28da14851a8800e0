import ChatFlow.Inbox
import ChatFlow.Json.Body

/-!
# Faults of what comes in

What comes in can be wrong in many ways. `FailsOnly` says of an outcome that its fault, if there is one,
is of a given kind. Values of unknown shape fail for their shape only (`FailsByShape`), and no fault of
what comes in is told in words from outside just as they came (`Quoteless`), be it that a body cannot
be read (`quoteless_readBody`) or that a batch cannot be taken (`quoteless_receive`).
-/

namespace ChatFlow

namespace Fault

/-- Whether a fault is that a value is not what it is taken for. -/
def isOfShape : Fault → Bool
  | invalid _ => true
  | notObject => true
  | wrongKind => true
  | missingKey => true
  | _ => false

theorem isQuote_of_isOfShape {f : Fault} (h : f.isOfShape) : f.isQuote = false := by
  cases f with
  | unloadable reason => cases h
  | undelivered message code => cases h
  | _ => rfl

end Fault

/-- If there is a fault, it is one of which `P` holds. -/
structure FailsOnly (P : Fault → Prop) {α : Type} (x : Except Fault α) : Prop where
  fault : ∀ {f}, x = .error f → P f

namespace FailsOnly

variable {α β : Type} {P Q : Fault → Prop} {x : Except Fault α}

theorem ok (a : α) : FailsOnly P (.ok a) := ⟨fun h => by cases h⟩

theorem error {f : Fault} (hf : P f) : FailsOnly P (.error f : Except Fault α) :=
  ⟨fun h => by cases h; exact hf⟩

theorem bind {g : α → Except Fault β} (hx : FailsOnly P x) (hg : ∀ a, FailsOnly P (g a)) :
    FailsOnly P (x >>= g) := by
  cases x with
  | error f => exact error (hx.fault rfl)
  | ok a => exact hg a

theorem map (hx : FailsOnly P x) (g : α → β) : FailsOnly P (x.map g) := by
  cases x with
  | error f => exact error (hx.fault rfl)
  | ok a => exact ok (g a)

theorem mono (hx : FailsOnly P x) (h : ∀ f, P f → Q f) : FailsOnly Q x :=
  ⟨fun hf => h _ (hx.fault hf)⟩

end FailsOnly

/-- If there is a fault, it is that a value is not what it is taken for. -/
abbrev FailsByShape {α : Type} (x : Except Fault α) : Prop := FailsOnly (fun f => f.isOfShape) x

/-- If there is a fault, it is not told in words from outside just as they came. -/
abbrev Quoteless {α : Type} (x : Except Fault α) : Prop := FailsOnly (fun f => f.isQuote = false) x

theorem FailsByShape.quoteless {α : Type} {x : Except Fault α} (h : FailsByShape x) : Quoteless x :=
  h.mono fun _ => Fault.isQuote_of_isOfShape

/-! ### Values of unknown shape -/

namespace Json

theorem failsByShape_member (v : Json) (k : String) (d : Json) : FailsByShape (v.member k d) := by
  unfold member
  split
  · exact .ok _
  · exact .error rfl

theorem failsByShape_memberObject (v : Json) (k : String) : FailsByShape (v.memberObject k) :=
  .bind (failsByShape_member ..) fun _ => .ok _

theorem failsByShape_each (v : Json) : FailsByShape v.each := by
  unfold each
  split
  · exact .ok _
  · exact .ok _
  · exact .ok _
  · exact .error rfl

theorem failsByShape_memberEach (v : Json) (k : String) : FailsByShape (v.memberEach k) :=
  .bind (failsByShape_member ..) fun _ => failsByShape_each _

theorem failsByShape_itemAt? (v : Json) (i : Nat) : FailsByShape (v.itemAt? i) := by
  unfold itemAt?
  split
  · exact .ok _
  · exact .ok _
  · split
    · exact .error rfl
    · exact .ok _
  · exact .error rfl

end Json

/-! ### Texts of values -/

namespace Json

namespace Reader

theorem quoteless_magnitude (negative : Bool) (cs : List Char) :
    Quoteless (magnitude negative cs) := by
  unfold magnitude
  split
  · exact .error rfl
  · dsimp only
    split
    · split
      · exact .error rfl
      · exact .ok _
    · exact .ok _

theorem quoteless_number (cs : List Char) : Quoteless (number cs) := by
  unfold number
  split
  · exact .ok _
  · exact .ok _
  · exact .ok _
  · exact quoteless_magnitude ..
  · exact quoteless_magnitude ..

theorem quoteless_text (cs : List Char) : Quoteless (text cs) := by
  unfold text
  split
  · exact .ok _
  · exact .error rfl

structure QuotelessAt (fuel : Nat) : Prop where
  value (depth : Nat) (cs : List Char) : Quoteless (value depth fuel cs)
  items (depth : Nat) (cs : List Char) : Quoteless (items depth fuel cs)
  fields (depth : Nat) (cs : List Char) : Quoteless (fields depth fuel cs)

theorem QuotelessAt.value_succ {fuel : Nat} (h : QuotelessAt fuel) (depth : Nat) (cs : List Char) :
    Quoteless (Reader.value depth (fuel + 1) cs) := by
  rw [Reader.value.eq_def]
  dsimp only
  split
  · exact .ok _
  · exact .ok _
  · exact .ok _
  · exact .bind (quoteless_text _) fun _ => .ok _
  · split
    · exact .error rfl
    · split
      · exact .ok _
      · exact .bind (h.items ..) fun _ => .ok _
  · split
    · exact .error rfl
    · split
      · exact .ok _
      · exact .bind (h.fields ..) fun _ => .ok _
  · exact quoteless_number _

theorem QuotelessAt.items_succ {fuel : Nat} (h : QuotelessAt fuel) (depth : Nat) (cs : List Char) :
    Quoteless (Reader.items depth (fuel + 1) cs) := by
  rw [Reader.items.eq_def]
  refine .bind (h.value ..) fun _ => ?_
  dsimp only
  split
  · exact .ok _
  · exact .bind (h.items ..) fun _ => .ok _
  · exact .error rfl

theorem QuotelessAt.fields_succ {fuel : Nat} (h : QuotelessAt fuel) (depth : Nat) (cs : List Char) :
    Quoteless (Reader.fields depth (fuel + 1) cs) := by
  rw [Reader.fields.eq_def]
  dsimp only
  split
  · refine .bind (quoteless_text _) fun _ => ?_
    split
    · refine .bind (h.value ..) fun _ => ?_
      split
      · exact .ok _
      · exact .bind (h.fields ..) fun _ => .ok _
      · exact .error rfl
    · exact .error rfl
  · exact .error rfl

theorem quotelessAt (fuel : Nat) : QuotelessAt fuel := by
  induction fuel with
  | zero =>
    refine ⟨fun depth cs => ?_, fun depth cs => ?_, fun depth cs => ?_⟩
    · rw [Reader.value.eq_def]; exact .error rfl
    · rw [Reader.items.eq_def]; exact .error rfl
    · rw [Reader.fields.eq_def]; exact .error rfl
  | succ fuel ih => exact ⟨ih.value_succ, ih.items_succ, ih.fields_succ⟩

end Reader

theorem quoteless_read (s : String) : Quoteless (read s) := by
  have hvalue := (Reader.quotelessAt (2 * s.length + 2)).value maxDepth (Reader.skip s.toList)
  unfold read
  split
  · split
    · exact .ok _
    · exact .error rfl
  · rename_i f hf
    exact .error (hvalue.fault hf)

theorem quoteless_readBody (bytes : List UInt8) : Quoteless (readBody bytes) := by
  unfold readBody
  split
  · exact quoteless_read _
  · exact .error rfl

end Json

/-! ### Messages -/

namespace Timestamp

variable {P : Fault → Prop}

theorem failsOnly_seconds? (hfar : P .timeOverflow) (v : Json) : FailsOnly P (seconds? v) := by
  unfold seconds?
  split
  · exact .ok _
  · exact .ok _
  · exact .ok _
  · split
    · exact .error hfar
    · exact .ok _
  · exact .ok _

theorem failsOnly_text? (hfar : P .timeOverflow) (hbeyond : P .noCalendar) (n : Int) :
    FailsOnly P (text? n) := by
  unfold text?
  split
  · exact .error hfar
  · split
    · exact .error hbeyond
    · split <;> exact .ok _

theorem failsOnly_format (hfar : P .timeOverflow) (hbeyond : P .noCalendar) (v : Json) :
    FailsOnly P (format v) := by
  refine .bind (failsOnly_seconds? hfar v) fun n => ?_
  cases n with
  | none => exact .ok _
  | some n => exact failsOnly_text? hfar hbeyond n

end Timestamp

namespace Inbox

open Json (failsByShape_member failsByShape_memberObject failsByShape_memberEach
  failsByShape_itemAt?)

theorem failsByShape_choice (interactive : Json) : FailsByShape (choice interactive) := by
  refine .bind (failsByShape_memberObject ..) fun button =>
    .bind (failsByShape_member ..) fun title => ?_
  split
  · exact .ok _
  · refine .bind (failsByShape_memberObject ..) fun row =>
      .bind (failsByShape_member ..) fun title => ?_
    split <;> exact .ok _

theorem failsByShape_content (message : Json) : FailsByShape (content message) := by
  refine .bind (failsByShape_member ..) fun type => ?_
  dsimp only
  split
  all_goals refine .bind ?_ fun body => ?_
  any_goals exact failsByShape_memberObject ..
  any_goals exact .error rfl
  any_goals exact .ok _
  -- Whatever the type says the message is, its body is read as that.
  all_goals
    split
    · exact .bind (failsByShape_member ..) fun _ => .ok _
    · exact .bind (failsByShape_member ..) fun _ => .ok _
    · exact .bind (failsByShape_member ..) fun _ => .ok _
    · exact .ok _
    · exact .bind (failsByShape_member ..) fun _ => .ok _
    · exact .bind (failsByShape_member ..) fun _ => .bind (failsByShape_member ..) fun _ => .ok _
    · exact .ok _
    · exact .bind (failsByShape_member ..) fun _ => .ok _
    · exact failsByShape_choice _
    · exact .ok _

theorem failsByShape_withMedia (m : Message) (raw : Json) : FailsByShape (withMedia m raw) := by
  unfold withMedia
  split
  · exact .bind (failsByShape_memberObject ..) fun media => .bind (failsByShape_member ..) fun _ =>
      .bind (failsByShape_member ..) fun _ => .bind (failsByShape_member ..) fun _ => .ok _
  · exact .ok _

variable {P : Fault → Prop}

/-- Reading a message fails for a shape, or because of the stamp. -/
theorem failsOnly_read {raw : Json} (hshape : ∀ f : Fault, f.isOfShape → P f)
    (htime : ∀ stamp, raw.member "timestamp" = .ok stamp → FailsOnly P (Timestamp.format stamp))
    (sender contact number text : Json) : FailsOnly P (read raw sender contact number text) := by
  refine .bind ((failsByShape_memberObject ..).mono hshape) fun profile =>
    .bind ((failsByShape_member ..).mono hshape) fun name => ?_
  cases hstamp : raw.member "timestamp" with
  | error f => exact .error (hshape f ((failsByShape_member ..).fault hstamp))
  | ok stamp =>
    show FailsOnly P (Timestamp.format stamp >>= _)
    refine .bind (htime stamp hstamp) fun time => .bind ((failsByShape_member ..).mono hshape) fun id =>
      .bind ((failsByShape_member ..).mono hshape) fun type => ?_
    split
    · exact (failsByShape_withMedia ..).mono hshape
    · exact .error (hshape _ rfl)

section

variable {α : Type}

theorem failsOnly_findIn {r : Except Fault α} {f : α → Found} (hr : FailsOnly P r)
    (hf : ∀ a, FailsOnly P (f a).1) : FailsOnly P (findIn r f).1 := by
  cases r with
  | ok a => exact hf a
  | error e => exact .error (hr.fault rfl)

theorem failsOnly_findEach {f : α → Found} {as : List α} (hf : ∀ a ∈ as, FailsOnly P (f a).1) :
    FailsOnly P (findEach f as).1 := by
  induction as with
  | nil => exact .ok _
  | cons a as ih =>
    have ha := hf a List.mem_cons_self
    have ih := ih fun b hb => hf b (List.mem_cons_of_mem _ hb)
    rw [findEach]
    split
    · rename_i e log h
      rw [h] at ha
      exact .error (ha.fault rfl)
    · split
      · rename_i e more h
        rw [h] at ih
        exact .error (ih.fault rfl)
      · exact .ok _

end

theorem failsOnly_findMessage {entry : Json × Nat} (hshape : ∀ f : Fault, f.isOfShape → P f)
    (htime : ∀ stamp, entry.1.member "timestamp" = .ok stamp → FailsOnly P (Timestamp.format stamp))
    (contacts metadata : Json) : FailsOnly P (findMessage contacts metadata entry).1 := by
  refine failsOnly_findIn ((failsByShape_member ..).mono hshape) fun sender => ?_
  split
  · exact failsOnly_findIn ((failsByShape_member ..).mono hshape) fun _ => .ok _
  · refine failsOnly_findIn (FailsOnly.mono ?_ hshape) fun _ =>
      failsOnly_findIn ((failsByShape_content _).mono hshape) fun _ =>
        (failsOnly_read hshape htime ..).map _
    exact .bind (failsByShape_itemAt? ..) fun _ => .bind (failsByShape_member ..) fun _ => .ok _

theorem quoteless_findMessage (contacts metadata : Json) (entry : Json × Nat) :
    Quoteless (findMessage contacts metadata entry).1 := by
  refine failsOnly_findMessage (fun _ => Fault.isQuote_of_isOfShape) (fun stamp _ => ?_) contacts
    metadata
  exact Timestamp.failsOnly_format (by rfl) (by rfl) stamp

theorem quoteless_findChange (change : Json) : Quoteless (findChange change).1 := by
  refine failsOnly_findIn (failsByShape_member ..).quoteless fun field => ?_
  split
  · refine failsOnly_findIn (FailsByShape.quoteless ?_) fun _ =>
      failsOnly_findEach fun entry _ => quoteless_findMessage _ _ entry
    exact .bind (failsByShape_memberObject ..) fun value =>
      .bind (failsByShape_memberObject ..) fun _ => .bind (failsByShape_member ..) fun _ =>
      .bind (failsByShape_memberEach ..) fun _ => .ok _
  · exact .ok _

theorem quoteless_extract (batch : Json) : Quoteless (extract batch).1 :=
  failsOnly_findIn (failsByShape_memberEach ..).quoteless fun _ => failsOnly_findEach fun _ _ =>
    failsOnly_findIn (failsByShape_memberEach ..).quoteless fun _ => failsOnly_findEach fun change _ =>
      quoteless_findChange change

/-- Taking a batch fails for a shape, or as the search of it does. -/
theorem failsOnly_receive {σ : Type} {a : Archive σ} {now : String} {bot : Option String} {s : σ}
    {batch : Json} (hshape : ∀ f : Fault, f.isOfShape → P f) (hfound : FailsOnly P (extract batch).1) :
    FailsOnly P (receive a now bot s batch).1 := by
  unfold receive
  split
  · rename_i f hf
    exact .error (hshape f ((failsByShape_member ..).fault hf))
  · split
    · split
      · rename_i f log h
        rw [h] at hfound
        exact .error (hfound.fault rfl)
      · exact .ok _
      · exact .ok _
    · exact .ok _

theorem quoteless_receive {σ : Type} (a : Archive σ) (now : String) (bot : Option String) (s : σ)
    (batch : Json) : Quoteless (receive a now bot s batch).1 :=
  failsOnly_receive (fun _ => Fault.isQuote_of_isOfShape) (quoteless_extract batch)

end Inbox

end ChatFlow
