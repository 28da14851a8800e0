import ChatFlow.Workflow.Decode
import Mathlib.Data.List.Forall2

/-!
# Which values are trees

`Json.Depicts` is the grammar of trees: a value that depicts a node is an object with an id, a kind,
a payload and children of the right shapes, and the node has what the object gives. Just these values
are read (`decode_eq_ok_iff`). `Json.HasFault` says what is wrong with a value, at which place:
reading it reports each fault (`mem_issues_decode`) in the order of the places (`inPlaces_decode`),
and so none of them twice.
-/

namespace ChatFlow

open Schema

/-! ### The grammar -/

/-- A field with two names is given under the first of them that an object has. -/
inductive Schema.Gives (fields : Assoc Json) (first second : String) : String → Json → Prop
  | first {v} (h : Assoc.get? fields first = some v) : Gives fields first second first v
  | second {v} (h : Assoc.get? fields first = none) (h' : Assoc.get? fields second = some v) :
    Gives fields first second second v

namespace Json

/-- The id in a field: a text as it is, or an integer written out. -/
inductive GivesId : Option Json → Option String → Prop
  | absent : GivesId none none
  | null : GivesId (some .null) none
  | text (s : String) : GivesId (some (.str s)) (some s)
  | integer (n : Int) : GivesId (some (.int n)) (some (toString n))

inductive GivesData : Option Json → Assoc Json → Prop
  | absent : GivesData none []
  | null : GivesData (some .null) []
  | object (fields : Assoc Json) : GivesData (some (.obj fields)) fields

/-- The values in a field that are to be the children of a node. -/
inductive GivesItems : Option Json → List Json → Prop
  | absent : GivesItems none []
  | null : GivesItems (some .null) []
  | list (items : List Json) : GivesItems (some (.arr items)) items

/-- A value depicts a tree. -/
inductive Depicts : Json → Node → Prop
  | node {fields : Assoc Json} {id : Option String} {kind : String} {data : Assoc Json}
      {items : List Json} {children : List Node}
      (hid : GivesId (Assoc.get? fields "id") id)
      (hkind : (Assoc.get? fields "type").or (Assoc.get? fields "kind") = some (.str kind))
      (hdata : GivesData (Assoc.get? fields "data") data)
      (hitems : GivesItems ((Assoc.get? fields "childs").or (Assoc.get? fields "children")) items)
      (hchildren : List.Forall₂ Depicts items children) :
      Depicts (.obj fields) ⟨id, .ofName kind, data, children⟩

/-- What is wrong with an id. -/
inductive SpoilsId : Json → Complaint → Prop
  | bool (b : Bool) : SpoilsId (.bool b) .badId
  | float (x : Float) : SpoilsId (.float x) .notText
  | arr (items : List Json) : SpoilsId (.arr items) .notText
  | obj (fields : Assoc Json) : SpoilsId (.obj fields) .notText

/-- A fault of a value that is to depict a tree, at the place of what is ill-formed. -/
inductive HasFault : Json → Issue → Prop
  | value {v : Json} (h : ∀ fields, v ≠ .obj fields) : HasFault v ⟨[], .notRecord⟩
  | id {fields : Assoc Json} {v : Json} {c : Complaint} (h : Assoc.get? fields "id" = some v)
      (hv : SpoilsId v c) : HasFault (.obj fields) ⟨[.field "id"], c⟩
  | noKind {fields : Assoc Json} (h : Assoc.get? fields "type" = none)
      (h' : Assoc.get? fields "kind" = none) : HasFault (.obj fields) ⟨[.field "type"], .missing⟩
  | kind {fields : Assoc Json} {k : String} {v : Json} (h : Gives fields "type" "kind" k v)
      (hv : ∀ s, v ≠ .str s) : HasFault (.obj fields) ⟨[.field k], .notText⟩
  | data {fields : Assoc Json} {v : Json} (h : Assoc.get? fields "data" = some v)
      (hv : ∀ data, ¬ GivesData (some v) data) :
      HasFault (.obj fields) ⟨[.field "data"], .notObject⟩
  | children {fields : Assoc Json} {k : String} {v : Json}
      (h : Gives fields "childs" "children" k v) (hv : ∀ items, ¬ GivesItems (some v) items) :
      HasFault (.obj fields) ⟨[.field k], .notChildren⟩
  | child {fields : Assoc Json} {k : String} {items : List Json} {i : Nat} {v : Json}
      {fault : Issue} (h : Gives fields "childs" "children" k (.arr items)) (hv : items[i]? = some v)
      (hfault : HasFault v fault) :
      HasFault (.obj fields) ((fault.under (.item i)).under (.field k))

end Json

namespace Schema

variable {α : Type} {d : Decoder α} {fields : Assoc Json} {names : List String} {k a b : String}
  {v : Json} {x y : α} {i : Nat} {vs : List Json} {issue : Issue}

/-! ### Fields and items -/

theorem lookup?_one (fields : Assoc Json) (a : String) :
    lookup? fields [a] = (Assoc.get? fields a).map (a, ·) := by
  simp only [lookup?]
  cases Assoc.get? fields a <;> rfl

theorem lookup?_two_eq_some_iff : lookup? fields [a, b] = some (k, v) ↔ Gives fields a b k v := by
  simp only [lookup?]
  constructor
  · intro h
    split at h
    · rename_i ha
      cases h; exact .first ha
    · rename_i ha
      split at h
      · rename_i hb
        cases h; exact .second ha hb
      · cases h
  · rintro (h | ⟨h, h'⟩)
    · rw [h]
    · rw [h, h']

theorem lookup?_two_eq_none_iff :
    lookup? fields [a, b] = none ↔ Assoc.get? fields a = none ∧ Assoc.get? fields b = none := by
  simp only [lookup?]
  cases Assoc.get? fields a <;> cases Assoc.get? fields b <;> simp

theorem map_lookup?_one : (lookup? fields [a]).map (·.2) = Assoc.get? fields a := by
  rw [lookup?_one]
  cases Assoc.get? fields a <;> rfl

theorem map_lookup?_two :
    (lookup? fields [a, b]).map (·.2) = (Assoc.get? fields a).or (Assoc.get? fields b) := by
  simp only [lookup?]
  cases Assoc.get? fields a <;> cases Assoc.get? fields b <;> rfl

theorem defaulted_eq_ok_iff {R : Option Json → Prop} (habsent : x = y ↔ R none)
    (hgiven : ∀ v, d v = .ok y ↔ R (some v)) :
    defaulted fields names x d = .ok y ↔ R ((lookup? fields names).map (·.2)) := by
  rw [defaulted]
  split
  · rename_i k v h
    rw [h, Checked.under_eq_ok_iff, hgiven]; rfl
  · rename_i h
    rw [h, Checked.ok.injEq, habsent]; rfl

theorem required_eq_ok_iff : required fields names d = .ok y ↔
    ∃ v, (lookup? fields names).map (·.2) = some v ∧ d v = .ok y := by
  rw [required]
  split
  · rename_i k v h
    rw [h, Checked.under_eq_ok_iff]; simp
  · rename_i h
    rw [h]; simp

theorem mem_issues_under {s : Segment} {z : Checked α} :
    issue ∈ (z.under s).issues ↔ ∃ fault ∈ z.issues, issue = fault.under s := by
  simp [eq_comm]

theorem mem_issues_defaulted : issue ∈ (defaulted fields names x d).issues ↔
    ∃ k v, lookup? fields names = some (k, v) ∧ ∃ fault ∈ (d v).issues,
      issue = fault.under (.field k) := by
  rw [defaulted]
  split
  · rename_i k v h
    rw [mem_issues_under, h]; simp
  · rename_i h
    rw [h]; simp

theorem mem_issues_required : issue ∈ (required fields names d).issues ↔
    (lookup? fields names = none ∧ issue = ⟨[.field (names.headD "")], .missing⟩) ∨
      ∃ k v, lookup? fields names = some (k, v) ∧ ∃ fault ∈ (d v).issues,
        issue = fault.under (.field k) := by
  rw [required]
  split
  · rename_i k v h
    rw [mem_issues_under, h]; simp
  · rename_i h
    rw [h]; simp [Checked.issues]

theorem itemsFrom_eq_ok_iff {xs : List α} :
    itemsFrom d i vs = .ok xs ↔ List.Forall₂ (fun v x => d v = .ok x) vs xs := by
  induction vs generalizing i xs with
  | nil =>
    rw [itemsFrom, List.forall₂_nil_left_iff]
    exact ⟨fun h => by cases h; rfl, fun h => h ▸ rfl⟩
  | cons v vs ih =>
    rw [itemsFrom, Checked.seq_eq_ok_iff, List.forall₂_cons_left_iff]
    constructor
    · rintro ⟨g, xs', hg, hxs, rfl⟩
      obtain ⟨x, hx, rfl⟩ := Checked.ok_of_map hg
      exact ⟨x, xs', Checked.ok_of_under hx, ih.1 hxs, rfl⟩
    · rintro ⟨x, xs', hx, hxs, rfl⟩
      exact ⟨List.cons x, xs', by rw [hx]; rfl, ih.2 hxs, rfl⟩

theorem mem_issues_itemsFrom : issue ∈ (itemsFrom d i vs).issues ↔
    ∃ j v fault, vs[j]? = some v ∧ fault ∈ (d v).issues ∧ issue = fault.under (.item (i + j)) := by
  induction vs generalizing i with
  | nil => simp [itemsFrom]
  | cons v vs ih =>
    have hissues : (itemsFrom d i (v :: vs)).issues =
        (d v).issues.map (·.under (.item i)) ++ (itemsFrom d (i + 1) vs).issues := by
      rw [itemsFrom, Checked.issues_seq, Checked.issues_map, Checked.issues_under]
    rw [hissues, List.mem_append, List.mem_map, ih]
    constructor
    · rintro (⟨fault, hfault, rfl⟩ | ⟨j, w, fault, hw, hfault, rfl⟩)
      · exact ⟨0, v, fault, rfl, hfault, rfl⟩
      · exact ⟨j + 1, w, fault, hw, hfault, by rw [Nat.add_right_comm, Nat.add_assoc]⟩
    · rintro ⟨_ | j, w, fault, hw, hfault, rfl⟩
      · obtain rfl : v = w := Option.some.inj hw
        exact .inl ⟨fault, hfault, rfl⟩
      · exact .inr ⟨j, w, fault, hw, hfault, by rw [Nat.add_right_comm, Nat.add_assoc]⟩

end Schema

namespace Node

variable {fields : Assoc Json} {v : Json} {id : Option String} {kind : NodeKind} {data : Assoc Json}
  {n : Node} {ns : List Node} {issue : Issue}

/-! ### The parts of a node -/

theorem decodeId_eq_ok_iff : decodeId v = .ok id ↔ Json.GivesId (some v) id := by
  constructor
  · intro h
    cases v with
    | null => cases h; exact .null
    | int n => cases h; exact .integer n
    | str s => cases h; exact .text s
    | _ => cases h
  · rintro (_ | _ | _ | _) <;> rfl

theorem decodeKind_eq_ok_iff : decodeKind v = .ok kind ↔ ∃ s, v = .str s ∧ kind = .ofName s := by
  constructor
  · intro h
    cases v with
    | str s => cases h; exact ⟨s, rfl, rfl⟩
    | _ => cases h
  · rintro ⟨s, rfl, rfl⟩; rfl

theorem decodeData_eq_ok_iff : decodeData v = .ok data ↔ Json.GivesData (some v) data := by
  constructor
  · intro h
    cases v with
    | null => cases h; exact .null
    | obj fields => cases h; exact .object _
    | _ => cases h
  · rintro (_ | _ | _) <;> rfl

theorem mem_issues_decodeId :
    issue ∈ (decodeId v).issues ↔ ∃ c, Json.SpoilsId v c ∧ issue = ⟨[], c⟩ := by
  constructor
  · intro h
    cases v with
    | null => cases h
    | int n => cases h
    | str s => cases h
    | bool b => exact ⟨_, .bool b, List.mem_singleton.1 h⟩
    | float x => exact ⟨_, .float x, List.mem_singleton.1 h⟩
    | arr items => exact ⟨_, .arr items, List.mem_singleton.1 h⟩
    | obj fields => exact ⟨_, .obj fields, List.mem_singleton.1 h⟩
  · rintro ⟨c, hc, rfl⟩
    cases hc <;> exact List.mem_singleton_self _

theorem mem_issues_decodeKind :
    issue ∈ (decodeKind v).issues ↔ (∀ s, v ≠ .str s) ∧ issue = ⟨[], .notText⟩ := by
  constructor
  · intro h
    cases v with
    | str s => cases h
    | _ => exact ⟨by simp, List.mem_singleton.1 h⟩
  · rintro ⟨hv, rfl⟩
    cases v with
    | str s => exact absurd rfl (hv s)
    | _ => exact List.mem_singleton_self _

theorem mem_issues_decodeData : issue ∈ (decodeData v).issues ↔
    (∀ data, ¬ Json.GivesData (some v) data) ∧ issue = ⟨[], .notObject⟩ := by
  constructor
  · intro h
    cases v with
    | null | obj => cases h
    | _ =>
      refine ⟨fun data hdata => ?_, List.mem_singleton.1 h⟩
      cases hdata
  · rintro ⟨hv, rfl⟩
    cases v with
    | null => exact absurd .null (hv [])
    | obj fields => exact absurd (.object fields) (hv fields)
    | _ => exact List.mem_singleton_self _

/-! ### The children -/

theorem decodeFrom_eq (i : Nat) (vs : List Json) : decodeFrom i vs = itemsFrom decode i vs := by
  induction vs generalizing i with
  | nil => rw [decodeFrom, itemsFrom]
  | cons v vs ih => rw [decodeFrom, itemsFrom, ih]

theorem childrenAt_eq (name : String) (fields : Assoc Json) : childrenAt name fields =
    (Assoc.get? fields name).map fun v => (decodeChildren v).under (.field name) := by
  induction fields with
  | nil => rfl
  | cons e fields ih =>
    obtain ⟨k, v⟩ := e
    rw [childrenAt, Assoc.get?, ih]
    split <;> rfl

theorem decodeChildren_eq_ok_iff : decodeChildren v = .ok ns ↔
    ∃ items, Json.GivesItems (some v) items ∧
      List.Forall₂ (fun v n => decode v = .ok n) items ns := by
  constructor
  · intro h
    cases v with
    | null => cases h; exact ⟨[], .null, .nil⟩
    | arr items =>
      rw [decodeChildren, decodeFrom_eq] at h
      exact ⟨items, .list items, itemsFrom_eq_ok_iff.1 h⟩
    | _ => cases h
  · rintro ⟨items, hitems, h⟩
    cases hitems with
    | null => cases h; rfl
    | list items =>
      rw [decodeChildren, decodeFrom_eq]
      exact itemsFrom_eq_ok_iff.2 h

theorem mem_issues_decodeChildren : issue ∈ (decodeChildren v).issues ↔
    ((∀ items, ¬ Json.GivesItems (some v) items) ∧ issue = ⟨[], .notChildren⟩) ∨
      ∃ items, v = .arr items ∧ ∃ i c, items[i]? = some c ∧ ∃ fault ∈ (decode c).issues,
        issue = fault.under (.item i) := by
  constructor
  · intro h
    cases v with
    | null => cases h
    | arr items =>
      rw [decodeChildren, decodeFrom_eq, mem_issues_itemsFrom] at h
      obtain ⟨i, c, fault, hc, hfault, rfl⟩ := h
      exact .inr ⟨items, rfl, i, c, hc, fault, hfault, by rw [Nat.zero_add]⟩
    | _ =>
      refine .inl ⟨fun items hitems => ?_, List.mem_singleton.1 h⟩
      cases hitems
  · rintro (⟨hv, rfl⟩ | ⟨items, rfl, i, c, hc, fault, hfault, rfl⟩)
    · cases v with
      | null => exact absurd .null (hv [])
      | arr items => exact absurd (.list items) (hv items)
      | _ => exact List.mem_singleton_self _
    · rw [decodeChildren, decodeFrom_eq, mem_issues_itemsFrom]
      exact ⟨i, c, fault, hc, hfault, by rw [Nat.zero_add]⟩

/-! ### Trees -/

theorem decode_obj (fields : Assoc Json) : decode (.obj fields) =
    Node.mk <$> defaulted fields ["id"] none decodeId
      <*> required fields ["type", "kind"] decodeKind
      <*> defaulted fields ["data"] [] decodeData
      <*> defaulted fields ["childs", "children"] [] decodeChildren := by
  rw [decode, childrenAt_eq, childrenAt_eq]
  refine congrArg _ ?_
  simp only [defaulted, lookup?]
  cases Assoc.get? fields "childs" <;> cases Assoc.get? fields "children" <;> rfl

theorem sizeOf_lt_of_item {k : String} {items : List Json} {c : Json}
    (h : Assoc.get? fields k = some (.arr items)) (hc : c ∈ items) :
    sizeOf c < sizeOf (Json.obj fields) := by
  have hitem := List.sizeOf_lt_of_mem hc
  have hfield := List.sizeOf_lt_of_mem (Assoc.mem_of_get? h)
  simp only [Prod.mk.sizeOf_spec, Json.arr.sizeOf_spec, Json.obj.sizeOf_spec] at hfield ⊢
  omega

theorem sizeOf_lt_of_givesItems {a b : String} {items : List Json} {c : Json}
    (h : Json.GivesItems ((Assoc.get? fields a).or (Assoc.get? fields b)) items) (hc : c ∈ items) :
    sizeOf c < sizeOf (Json.obj fields) := by
  generalize ho : (Assoc.get? fields a).or (Assoc.get? fields b) = o at h
  cases h with
  | absent | null => cases hc
  | list =>
    rcases Option.or_eq_some_iff.1 ho with ha | ⟨-, hb⟩
    · exact sizeOf_lt_of_item ha hc
    · exact sizeOf_lt_of_item hb hc

/-! ### Trees that are read -/

theorem idField_eq_ok_iff : defaulted fields ["id"] none decodeId = .ok id ↔
    Json.GivesId (Assoc.get? fields "id") id := by
  rw [← map_lookup?_one]
  exact defaulted_eq_ok_iff (R := (Json.GivesId · id))
    ⟨fun h => h ▸ .absent, fun h => by cases h; rfl⟩ fun v => decodeId_eq_ok_iff

theorem kindField_eq_ok_iff : required fields ["type", "kind"] decodeKind = .ok kind ↔
    ∃ s, (Assoc.get? fields "type").or (Assoc.get? fields "kind") = some (.str s) ∧
      kind = .ofName s := by
  rw [required_eq_ok_iff, map_lookup?_two]
  constructor
  · rintro ⟨v, hv, hkind⟩
    obtain ⟨s, rfl, rfl⟩ := decodeKind_eq_ok_iff.1 hkind
    exact ⟨s, hv, rfl⟩
  · rintro ⟨s, hs, rfl⟩
    exact ⟨.str s, hs, rfl⟩

theorem dataField_eq_ok_iff : defaulted fields ["data"] [] decodeData = .ok data ↔
    Json.GivesData (Assoc.get? fields "data") data := by
  rw [← map_lookup?_one]
  exact defaulted_eq_ok_iff (R := (Json.GivesData · data))
    ⟨fun h => h ▸ .absent, fun h => by cases h; rfl⟩ fun v => decodeData_eq_ok_iff

theorem childrenField_eq_ok_iff :
    defaulted fields ["childs", "children"] [] decodeChildren = .ok ns ↔
      ∃ items, Json.GivesItems ((Assoc.get? fields "childs").or (Assoc.get? fields "children"))
        items ∧ List.Forall₂ (fun v n => decode v = .ok n) items ns := by
  rw [← map_lookup?_two]
  refine defaulted_eq_ok_iff (R := fun o => ∃ items, Json.GivesItems o items ∧
    List.Forall₂ (fun v n => decode v = .ok n) items ns) ?_ fun v => decodeChildren_eq_ok_iff
  exact ⟨fun h => ⟨[], .absent, h ▸ .nil⟩, fun ⟨_, h, h'⟩ => by cases h; cases h'; rfl⟩

/-- A value is read as a node exactly if it depicts it. -/
theorem decode_eq_ok_iff {v : Json} {n : Node} : decode v = .ok n ↔ v.Depicts n := by
  match v with
  | .obj fields =>
    -- The children are smaller than the node, so just those are read that depict something.
    have hchildren {items : List Json} {ns : List Node}
        (h : Json.GivesItems ((Assoc.get? fields "childs").or (Assoc.get? fields "children"))
          items) : List.Forall₂ (fun v n => decode v = .ok n) items ns ↔
            List.Forall₂ Json.Depicts items ns := by
      rw [List.forall₂_iff_zip, List.forall₂_iff_zip]
      refine and_congr_right fun _ => forall₂_congr fun c n => imp_congr_right fun hmem => ?_
      have : sizeOf c < sizeOf (Json.obj fields) :=
        sizeOf_lt_of_givesItems h (List.of_mem_zip hmem).1
      exact decode_eq_ok_iff
    rw [decode_obj]
    constructor
    · intro h
      obtain ⟨g₃, children, h₃, hchild, rfl⟩ := Checked.ok_of_seq h
      obtain ⟨g₂, data, h₂, hdata, rfl⟩ := Checked.ok_of_seq h₃
      obtain ⟨g₁, kind, h₁, hkind, rfl⟩ := Checked.ok_of_seq h₂
      obtain ⟨id, hid, rfl⟩ := Checked.ok_of_map h₁
      obtain ⟨s, hs, rfl⟩ := kindField_eq_ok_iff.1 hkind
      obtain ⟨items, hitems, hall⟩ := childrenField_eq_ok_iff.1 hchild
      exact .node (idField_eq_ok_iff.1 hid) hs (dataField_eq_ok_iff.1 hdata) hitems
        ((hchildren hitems).1 hall)
    · rintro ⟨hid, hkind, hdata, hitems, hall⟩
      rw [idField_eq_ok_iff.2 hid, kindField_eq_ok_iff.2 ⟨_, hkind, rfl⟩,
        dataField_eq_ok_iff.2 hdata,
        childrenField_eq_ok_iff.2 ⟨_, hitems, (hchildren hitems).2 hall⟩]
      rfl
  | .null | .bool _ | .int _ | .float _ | .str _ | .arr _ =>
    constructor <;> intro h <;> cases h
termination_by sizeOf v
decreasing_by exact this

/-! ### Faults that are reported -/

theorem mem_issues_idField : issue ∈ (defaulted fields ["id"] none decodeId).issues ↔
    ∃ v c, Assoc.get? fields "id" = some v ∧ Json.SpoilsId v c ∧ issue = ⟨[.field "id"], c⟩ := by
  rw [mem_issues_defaulted, lookup?_one]
  constructor
  · rintro ⟨k, v, hv, fault, hfault, rfl⟩
    obtain ⟨v, hv, h⟩ := Option.map_eq_some_iff.1 hv
    cases h
    obtain ⟨c, hc, rfl⟩ := mem_issues_decodeId.1 hfault
    exact ⟨v, c, hv, hc, rfl⟩
  · rintro ⟨v, c, hv, hc, rfl⟩
    exact ⟨"id", v, by rw [hv]; rfl, _, mem_issues_decodeId.2 ⟨c, hc, rfl⟩, rfl⟩

theorem mem_issues_kindField : issue ∈ (required fields ["type", "kind"] decodeKind).issues ↔
    ((Assoc.get? fields "type" = none ∧ Assoc.get? fields "kind" = none) ∧
      issue = ⟨[.field "type"], .missing⟩) ∨
    ∃ k v, Gives fields "type" "kind" k v ∧ (∀ s, v ≠ .str s) ∧ issue = ⟨[.field k], .notText⟩ := by
  rw [mem_issues_required, lookup?_two_eq_none_iff]
  refine or_congr Iff.rfl ?_
  constructor
  · rintro ⟨k, v, hv, fault, hfault, rfl⟩
    obtain ⟨hs, rfl⟩ := mem_issues_decodeKind.1 hfault
    exact ⟨k, v, lookup?_two_eq_some_iff.1 hv, hs, rfl⟩
  · rintro ⟨k, v, hv, hs, rfl⟩
    exact ⟨k, v, lookup?_two_eq_some_iff.2 hv, _, mem_issues_decodeKind.2 ⟨hs, rfl⟩, rfl⟩

theorem mem_issues_dataField : issue ∈ (defaulted fields ["data"] [] decodeData).issues ↔
    ∃ v, Assoc.get? fields "data" = some v ∧ (∀ data, ¬ Json.GivesData (some v) data) ∧
      issue = ⟨[.field "data"], .notObject⟩ := by
  rw [mem_issues_defaulted, lookup?_one]
  constructor
  · rintro ⟨k, v, hv, fault, hfault, rfl⟩
    obtain ⟨v, hv, h⟩ := Option.map_eq_some_iff.1 hv
    cases h
    obtain ⟨hd, rfl⟩ := mem_issues_decodeData.1 hfault
    exact ⟨v, hv, hd, rfl⟩
  · rintro ⟨v, hv, hd, rfl⟩
    exact ⟨"data", v, by rw [hv]; rfl, _, mem_issues_decodeData.2 ⟨hd, rfl⟩, rfl⟩

theorem mem_issues_childrenField :
    issue ∈ (defaulted fields ["childs", "children"] [] decodeChildren).issues ↔
      (∃ k v, Gives fields "childs" "children" k v ∧ (∀ items, ¬ Json.GivesItems (some v) items) ∧
        issue = ⟨[.field k], .notChildren⟩) ∨
      ∃ k items i c fault, Gives fields "childs" "children" k (.arr items) ∧ items[i]? = some c ∧
        fault ∈ (decode c).issues ∧ issue = (fault.under (.item i)).under (.field k) := by
  rw [mem_issues_defaulted]
  constructor
  · rintro ⟨k, v, hv, fault, hfault, rfl⟩
    have hgives := lookup?_two_eq_some_iff.1 hv
    rcases mem_issues_decodeChildren.1 hfault with
      ⟨hi, rfl⟩ | ⟨items, rfl, i, c, hc, fault, hf, rfl⟩
    · exact .inl ⟨k, v, hgives, hi, rfl⟩
    · exact .inr ⟨k, items, i, c, fault, hgives, hc, hf, rfl⟩
  · rintro (⟨k, v, hv, hi, rfl⟩ | ⟨k, items, i, c, fault, hv, hc, hf, rfl⟩)
    · exact ⟨k, v, lookup?_two_eq_some_iff.2 hv, _,
        mem_issues_decodeChildren.2 (.inl ⟨hi, rfl⟩), rfl⟩
    · exact ⟨k, _, lookup?_two_eq_some_iff.2 hv, _,
        mem_issues_decodeChildren.2 (.inr ⟨items, rfl, i, c, hc, fault, hf, rfl⟩), rfl⟩

theorem issues_decode_obj (fields : Assoc Json) : (decode (.obj fields)).issues =
    (defaulted fields ["id"] none decodeId).issues ++
      ((required fields ["type", "kind"] decodeKind).issues ++
        ((defaulted fields ["data"] [] decodeData).issues ++
          (defaulted fields ["childs", "children"] [] decodeChildren).issues)) := by
  rw [decode_obj, Checked.issues_seq, Checked.issues_seq, Checked.issues_seq, Checked.issues_map,
    List.append_assoc, List.append_assoc]

/-- Reading a value reports each of its faults, and nothing else. -/
theorem mem_issues_decode {v : Json} {issue : Issue} :
    issue ∈ (decode v).issues ↔ v.HasFault issue := by
  match v with
  | .obj fields =>
    have hbelow {k : String} {items : List Json} {i : Nat} {c : Json} {fault : Issue}
        (h : Gives fields "childs" "children" k (.arr items)) (hc : items[i]? = some c) :
        fault ∈ (decode c).issues ↔ c.HasFault fault := by
      have : sizeOf c < sizeOf (Json.obj fields) := by
        refine sizeOf_lt_of_item (k := k) ?_ (List.mem_of_getElem? hc)
        cases h <;> assumption
      exact mem_issues_decode
    rw [issues_decode_obj, List.mem_append, List.mem_append, List.mem_append, mem_issues_idField,
      mem_issues_kindField, mem_issues_dataField, mem_issues_childrenField]
    constructor
    · rintro (⟨v, c, hv, hc, rfl⟩ | (⟨⟨h, h'⟩, rfl⟩ | ⟨k, v, hv, hs, rfl⟩) | ⟨v, hv, hd, rfl⟩ |
        ⟨k, v, hv, hi, rfl⟩ | ⟨k, items, i, c, fault, hv, hc, hf, rfl⟩)
      · exact .id hv hc
      · exact .noKind h h'
      · exact .kind hv hs
      · exact .data hv hd
      · exact .children hv hi
      · exact .child hv hc ((hbelow hv hc).1 hf)
    · intro h
      cases h with
      | value h => exact absurd rfl (h _)
      | id hv hc => exact .inl ⟨_, _, hv, hc, rfl⟩
      | noKind h h' => exact .inr (.inl (.inl ⟨⟨h, h'⟩, rfl⟩))
      | kind hv hs => exact .inr (.inl (.inr ⟨_, _, hv, hs, rfl⟩))
      | data hv hd => exact .inr (.inr (.inl ⟨_, hv, hd, rfl⟩))
      | children hv hi => exact .inr (.inr (.inr (.inl ⟨_, _, hv, hi, rfl⟩)))
      | child hv hc hf =>
        exact .inr (.inr (.inr (.inr ⟨_, _, _, _, _, hv, hc, (hbelow hv hc).2 hf, rfl⟩)))
  | .null | .bool _ | .int _ | .float _ | .str _ | .arr _ =>
    constructor
    · intro h
      obtain rfl := List.mem_singleton.1 h
      exact .value fun _ h => by cases h
    · intro h
      cases h
      exact List.mem_singleton_self _
termination_by sizeOf v
decreasing_by exact this

/-! ### Their order -/

/-- The names that fields of a node may have, in the order of the fields. -/
def fieldNames : List String := ["id", "type", "kind", "data", "childs", "children"]

end Node

/-- The number of a field among those of a node, or of an item in a list. -/
def Schema.Segment.rank : Segment → Nat
  | field name => Node.fieldNames.idxOf name
  | item i => i

/-- Where an issue stands in a tree; places are compared from the root downwards. -/
def Schema.Issue.place (i : Issue) : List Nat := i.path.map Segment.rank

/-- Issues that stand in the order of their places, no two of them at one place. -/
def Schema.InPlaces (issues : List Issue) : Prop := issues.Pairwise fun i j => i.place < j.place

namespace Schema

variable {α : Type} {d : Decoder α} {fields : Assoc Json} {names : List String} {x : α}
  {z : Checked α} {s : Segment} {i : Nat} {vs : List Json} {issue : Issue}

theorem inPlaces_nil : InPlaces [] := List.Pairwise.nil

theorem inPlaces_singleton (issue : Issue) : InPlaces [issue] := List.pairwise_singleton _ _

theorem InPlaces.under (h : InPlaces z.issues) : InPlaces (z.under s).issues := by
  rw [InPlaces, Checked.issues_under, List.pairwise_map]
  exact h.imp fun hlt => List.cons_lt_cons_iff.2 (.inr ⟨rfl, hlt⟩)

theorem inPlaces_defaulted
    (h : ∀ v, some v = (lookup? fields names).map (·.2) → InPlaces (d v).issues) :
    InPlaces (defaulted fields names x d).issues := by
  rw [defaulted]
  split
  · rename_i k v hv
    exact (h v (by rw [hv]; rfl)).under
  · exact inPlaces_nil

theorem inPlaces_required (h : ∀ v, InPlaces (d v).issues) :
    InPlaces (required fields names d).issues := by
  rw [required]
  split
  · exact (h _).under
  · exact inPlaces_singleton _

theorem inPlaces_itemsFrom (h : ∀ v ∈ vs, InPlaces (d v).issues) :
    InPlaces (itemsFrom d i vs).issues := by
  induction vs generalizing i with
  | nil => exact inPlaces_nil
  | cons v vs ih =>
    obtain ⟨hv, hvs⟩ := List.forall_mem_cons.1 h
    rw [itemsFrom, Checked.issues_seq, Checked.issues_map, InPlaces, List.pairwise_append]
    refine ⟨hv.under, ih hvs, fun issue hissue later hlater => ?_⟩
    obtain ⟨fault, -, rfl⟩ := mem_issues_under.1 hissue
    obtain ⟨j, w, fault', -, -, rfl⟩ := mem_issues_itemsFrom.1 hlater
    exact List.cons_lt_cons_iff.2 (.inl (by simp only [Segment.rank]; omega))

/-- Issues in the order of their places, of the fields with numbers from `lo` on and below `hi`. -/
structure Spans (lo hi : Nat) (issues : List Issue) : Prop where
  inPlaces : InPlaces issues
  within : ∀ issue ∈ issues, ∃ r p, issue.place = r :: p ∧ lo ≤ r ∧ r < hi

theorem Spans.append {lo mid hi : Nat} {is js : List Issue} (h : Spans lo mid is)
    (h' : Spans mid hi js) (hlo : lo ≤ mid) (hhi : mid ≤ hi) : Spans lo hi (is ++ js) where
  inPlaces := by
    refine List.pairwise_append.2 ⟨h.inPlaces, h'.inPlaces, fun i hi j hj => ?_⟩
    obtain ⟨r, p, hr, -, hlt⟩ := h.within i hi
    obtain ⟨r', p', hr', hle, -⟩ := h'.within j hj
    rw [hr, hr']
    exact List.cons_lt_cons_iff.2 (.inl (by omega))
  within issue hissue := by
    rcases List.mem_append.1 hissue with hmem | hmem
    · obtain ⟨r, p, hr, hle, hlt⟩ := h.within issue hmem
      exact ⟨r, p, hr, hle, by omega⟩
    · obtain ⟨r, p, hr, hle, hlt⟩ := h'.within issue hmem
      exact ⟨r, p, hr, by omega, hlt⟩

end Schema

namespace Node

variable {fields : Assoc Json} {issue : Issue}

theorem spans_idField (fields : Assoc Json) :
    Spans 0 1 (defaulted fields ["id"] none decodeId).issues where
  inPlaces := inPlaces_defaulted fun v _ => by
    cases v with
    | null | int | str => exact inPlaces_nil
    | _ => exact inPlaces_singleton _
  within issue h := by
    obtain ⟨v, c, -, -, rfl⟩ := mem_issues_idField.1 h
    exact ⟨0, [], rfl, by decide⟩

theorem spans_kindField (fields : Assoc Json) :
    Spans 1 3 (required fields ["type", "kind"] decodeKind).issues where
  inPlaces := inPlaces_required fun v => by
    cases v with
    | str => exact inPlaces_nil
    | _ => exact inPlaces_singleton _
  within issue h := by
    rcases mem_issues_kindField.1 h with ⟨-, rfl⟩ | ⟨k, v, hv, -, rfl⟩
    · exact ⟨1, [], rfl, by decide⟩
    · cases hv with
      | first => exact ⟨1, [], rfl, by decide⟩
      | second => exact ⟨2, [], rfl, by decide⟩

theorem spans_dataField (fields : Assoc Json) :
    Spans 3 4 (defaulted fields ["data"] [] decodeData).issues where
  inPlaces := inPlaces_defaulted fun v _ => by
    cases v with
    | null | obj => exact inPlaces_nil
    | _ => exact inPlaces_singleton _
  within issue h := by
    obtain ⟨v, -, -, rfl⟩ := mem_issues_dataField.1 h
    exact ⟨3, [], rfl, by decide⟩

theorem spans_childrenField (h : InPlaces
    (defaulted fields ["childs", "children"] [] decodeChildren).issues) :
    Spans 4 6 (defaulted fields ["childs", "children"] [] decodeChildren).issues where
  inPlaces := h
  within issue h := by
    have hrank {k : String} {v : Json} (hv : Gives fields "childs" "children" k v) (p : List Nat) :
        ∃ r, (Segment.field k).rank :: p = r :: p ∧ 4 ≤ r ∧ r < 6 := by
      cases hv with
      | first => exact ⟨4, rfl, by decide⟩
      | second => exact ⟨5, rfl, by decide⟩
    rcases mem_issues_childrenField.1 h with
      ⟨k, v, hv, -, rfl⟩ | ⟨k, items, i, c, fault, hv, -, -, rfl⟩
    · exact (hrank hv []).imp fun r hr => ⟨[], hr⟩
    · exact (hrank hv (i :: fault.place)).imp fun r hr => ⟨_, hr⟩

/-- The faults of a value are reported in the order of their places. -/
theorem inPlaces_decode (v : Json) : InPlaces (decode v).issues := by
  match v with
  | .obj fields =>
    have hchildren :
        InPlaces (defaulted fields ["childs", "children"] [] decodeChildren).issues := by
      refine inPlaces_defaulted fun v hv => ?_
      cases v with
      | null => exact inPlaces_nil
      | arr items =>
        rw [decodeChildren, decodeFrom_eq]
        refine inPlaces_itemsFrom fun c hc => ?_
        have : sizeOf c < sizeOf (Json.obj fields) := by
          refine sizeOf_lt_of_givesItems (a := "childs") (b := "children") ?_ hc
          rw [← map_lookup?_two, ← hv]
          exact .list items
        exact inPlaces_decode c
      | _ => exact inPlaces_singleton _
    have hdata := (spans_dataField fields).append (spans_childrenField hchildren)
      (by decide) (by decide)
    have hkind := (spans_kindField fields).append hdata (by decide) (by decide)
    rw [issues_decode_obj]
    exact ((spans_idField fields).append hkind (by decide) (by decide)).inPlaces
  | .null | .bool _ | .int _ | .float _ | .str _ | .arr _ => exact inPlaces_singleton _
termination_by sizeOf v
decreasing_by exact this

example : (decode (.obj [("type", .int 1),
      ("childs", .arr [.null, .obj [("id", .bool true)]])])).issues =
    [⟨[.field "type"], .notText⟩, ⟨[.field "childs", .item 0], .notRecord⟩,
      ⟨[.field "childs", .item 1, .field "id"], .badId⟩,
      ⟨[.field "childs", .item 1, .field "type"], .missing⟩] := rfl

end Node

end ChatFlow
