import ChatFlow.Proofs.Inbox.Accounting
import ChatFlow.Proofs.Inbox.Faults

/-!
# The course of a search

Whatever a batch looks like, a search of it comes to some elements, and to a fault wherever entries,
changes, values or messages do not stand as they should. `Inbox.course` lists both in their order, and
`extract_eq_course` says that the search is one through this list. A batch without the stamps of its
messages (`Inbox.unstamped`) has the same course, but for the stamps (`course_unstamped`).
-/

namespace ChatFlow

/-! ### Changing a part of a value -/

namespace Json

/-- A value in which another one takes the place of each that stands under a field. -/
def update (k : String) (g : Json → Json) : Json → Json
  | obj fields => obj (fields.map fun e => if e.1 = k then (e.1, g e.2) else e)
  | v => v

def updateItems (g : Json → Json) : Json → Json
  | arr vs => arr (vs.map g)
  | v => v

def without (k : String) : Json → Json
  | obj fields => obj (Assoc.erase fields k)
  | v => v

variable {k k' : String} {g : Json → Json}

theorem get?_map_fields (fields : Assoc Json) (k k' : String) (g : Json → Json) :
    Assoc.get? (fields.map fun e => if e.1 = k then (e.1, g e.2) else e) k' =
      if k = k' then (Assoc.get? fields k').map g else Assoc.get? fields k' := by
  induction fields with
  | nil => simp
  | cons e fields ih =>
    obtain ⟨j, v⟩ := e
    rw [List.map_cons]
    by_cases hj : j = k
    · subst hj
      by_cases h : j = k' <;> simp_all [Assoc.get?]
    · by_cases h : j = k'
      · subst h
        simp [Assoc.get?, hj, Ne.symm hj]
      · simp_all [Assoc.get?]

theorem member_update_of_ne (h : k ≠ k') (v d : Json) :
    (v.update k g).member k' d = v.member k' d := by
  cases v with
  | obj fields => simp only [update, member, get?_map_fields, if_neg h]
  | _ => rfl

theorem member_update (hnull : g .null = .null) (v : Json) :
    (v.update k g).member k = g <$> v.member k := by
  cases v with
  | obj fields =>
    simp only [update, member, get?_map_fields, if_true]
    cases Assoc.get? fields k with
    | none => exact congrArg Except.ok hnull.symm
    | some u => rfl
  | _ => rfl

theorem isEmpty_update (k : String) (g : Json → Json) (v : Json) :
    (v.update k g).isEmpty = v.isEmpty := by
  cases v with
  | obj fields => exact List.isEmpty_map
  | _ => rfl

theorem isEmpty_updateItems (g : Json → Json) (v : Json) : (v.updateItems g).isEmpty = v.isEmpty := by
  cases v with
  | arr vs => exact List.isEmpty_map
  | _ => rfl

theorem memberObject_update (k k' : String) (g : Json → Json) (v : Json) :
    (v.update k (·.update k' g)).memberObject k = (·.update k' g) <$> v.memberObject k := by
  rw [memberObject, memberObject, member_update rfl]
  cases v.member k with
  | error f => rfl
  | ok u =>
    refine congrArg Except.ok ?_
    rw [ifEmpty, ifEmpty, isEmpty_update]
    split <;> rfl

theorem each_updateItems (htext : ∀ s, g (.str s) = .str s) (v : Json) :
    (v.updateItems g).each = List.map g <$> v.each := by
  cases v with
  | arr vs => rfl
  | str s => simp [updateItems, each, htext]
  | obj fields => simp [updateItems, each, htext]
  | _ => rfl

theorem memberEach_update (htext : ∀ s, g (.str s) = .str s) (k : String) (v : Json) :
    (v.update k (·.updateItems g)).memberEach k = List.map g <$> v.memberEach k := by
  rw [memberEach, memberEach, member_update rfl]
  cases v.member k with
  | error f => rfl
  | ok u =>
    have hitems : (u.updateItems g).ifEmpty (.arr []) = (u.ifEmpty (.arr [])).updateItems g := by
      rw [ifEmpty, ifEmpty, isEmpty_updateItems]
      split <;> rfl
    show ((u.updateItems g).ifEmpty (.arr [])).each = _
    rw [hitems, each_updateItems htext]
    rfl

theorem member_without_of_ne (h : k ≠ k') (v d : Json) :
    (v.without k).member k' d = v.member k' d := by
  cases v with
  | obj fields => simp only [without, member, Assoc.get?_erase, if_neg h]
  | _ => rfl

end Json

namespace Inbox

/-! ### The course of a search -/

section

variable {α β : Type}

theorem findEach_map (f : β → Found) (g : α → β) (as : List α) :
    findEach f (as.map g) = findEach (fun a => f (g a)) as :=
  findEach_congr (List.forall₂_map_left_iff.2 (List.forall₂_same.2 fun _ _ => rfl))

/-- What some values come to, one after the other, or the fault that keeps from them. -/
def courseIn (r : Except Fault (List α)) (f : α → List (Except Fault β)) : List (Except Fault β) :=
  match r with
  | .ok as => as.flatMap f
  | .error e => [.error e]

theorem findIn_courseIn {r : Except Fault (List α)} {f : α → List (Except Fault β)}
    {g : α → Found} {look : β → Found}
    (h : ∀ a, g a = findEach (findIn · look) (f a)) :
    findIn r (findEach g) = findEach (findIn · look) (courseIn r f) := by
  cases r with
  | error e => rfl
  | ok as =>
    rw [findIn, courseIn, List.flatMap_def, findEach_flatten, findEach_map]
    exact congrArg (findEach · as) (funext h)

theorem failsOnly_of_mem_courseIn {P : Fault → Prop} {r : Except Fault (List α)}
    {f : α → List (Except Fault β)} (hr : FailsOnly P r) (hf : ∀ a, ∀ x ∈ f a, FailsOnly P x)
    {x : Except Fault β} (hx : x ∈ courseIn r f) : FailsOnly P x := by
  cases r with
  | error e =>
    rw [List.mem_singleton.1 hx]
    exact .error (hr.fault rfl)
  | ok as =>
    obtain ⟨a, -, ha⟩ := List.mem_flatMap.1 hx
    exact hf a x ha

theorem courseIn_map {γ : Type} {r : Except Fault (List α)} {u : α → γ}
    {f : α → List (Except Fault β)} {f' : γ → List (Except Fault β)} {v : β → β}
    (h : ∀ a, f' (u a) = (f a).map (v <$> ·)) :
    courseIn (List.map u <$> r) f' = (courseIn r f).map (v <$> ·) := by
  cases r with
  | error e => rfl
  | ok as =>
    show (as.map u).flatMap f' = (as.flatMap f).map (v <$> ·)
    rw [List.flatMap_map, List.map_flatMap]
    exact congrArg (as.flatMap ·) (funext h)

end

/-- The elements that a change reports, if it can be read that far. -/
def changeElements (change : Json) : Except Fault (List Element) := do
  let field ← change.member "field"
  if field.text? == some "messages" then
    let value ← change.memberObject "value"
    let metadata ← value.member "metadata"
    let contacts ← value.member "contacts"
    let messages ← value.memberEach "messages"
    return messages.zipIdx.map fun (raw, position) => { raw, position, contacts, metadata }
  else return []

/-- What a search of a batch comes to, in its order: elements, and faults where there are none. -/
def course (batch : Json) : List (Except Fault Element) :=
  courseIn (batch.memberEach "entry") fun entry =>
    courseIn (entry.memberEach "changes") fun change =>
      courseIn (changeElements change) fun e => [.ok e]

/-- What is found where a search comes to: the message of an element, or a fault. -/
def look (x : Except Fault Element) : Found := findIn x Element.find

theorem findChange_eq (change : Json) :
    findChange change = findIn (changeElements change) (findEach Element.find) := by
  rw [findChange, changeElements, findIn_bind (change.member "field")]
  refine findIn_congr fun field _ => ?_
  split
  · simp only [findIn_bind, findIn_pure, findEach_map, Json.memberObject]
    rfl
  · rfl

theorem extract_eq_course (batch : Json) : extract batch = findEach look (course batch) := by
  refine findIn_courseIn fun entry => findIn_courseIn fun change => ?_
  rw [findChange_eq]
  exact findIn_courseIn fun e => (findEach_singleton look (.ok e)).symm

open Json (failsByShape_member failsByShape_memberObject failsByShape_memberEach) in
theorem failsByShape_changeElements (change : Json) : FailsByShape (changeElements change) := by
  refine .bind (failsByShape_member ..) fun field => ?_
  split
  · exact .bind (failsByShape_memberObject ..) fun value => .bind (failsByShape_member ..) fun _ =>
      .bind (failsByShape_member ..) fun _ => .bind (failsByShape_memberEach ..) fun _ => .ok _
  · exact .ok _

/-- Where a search comes to no element, something has not the shape that it is taken for. -/
theorem failsByShape_of_mem_course {batch : Json} {x : Except Fault Element}
    (hx : x ∈ course batch) : FailsByShape x := by
  refine failsOnly_of_mem_courseIn (Json.failsByShape_memberEach ..) (fun entry x hx => ?_) hx
  refine failsOnly_of_mem_courseIn (Json.failsByShape_memberEach ..) (fun change x hx => ?_) hx
  refine failsOnly_of_mem_courseIn (failsByShape_changeElements change) (fun e x hx => ?_) hx
  rw [List.mem_singleton.1 hx]
  exact .ok e

/-! ### Batches without stamps -/

/-- A message without its stamp. -/
def unstampedMessage (message : Json) : Json := message.without "timestamp"

/-- A change without the stamps of its messages. -/
def unstampedChange (change : Json) : Json :=
  change.update "value" (·.update "messages" (·.updateItems unstampedMessage))

/-- A batch without the stamps of its messages. -/
def unstamped (batch : Json) : Json :=
  batch.update "entry" (·.updateItems (·.update "changes" (·.updateItems unstampedChange)))

def Element.unstamped (e : Element) : Element := { e with raw := unstampedMessage e.raw }

theorem changeElements_unstamped (change : Json) :
    changeElements (unstampedChange change) =
      List.map Element.unstamped <$> changeElements change := by
  rw [changeElements, changeElements, unstampedChange, Json.member_update_of_ne (by decide),
    Json.memberObject_update, map_bind]
  refine bind_congr fun field => ?_
  split
  · rw [bind_map_left, map_bind]
    refine bind_congr fun value => ?_
    rw [Json.member_update_of_ne (by decide), Json.member_update_of_ne (by decide),
      Json.memberEach_update fun _ => rfl, map_bind]
    refine bind_congr fun metadata => ?_
    rw [map_bind]
    refine bind_congr fun contacts => ?_
    rw [bind_map_left, map_bind]
    refine bind_congr fun messages => congrArg Except.ok ?_
    rw [List.zipIdx_map, List.map_map, List.map_map]
    rfl
  · rfl

/-- Without stamps, a search comes to the same elements without theirs. -/
theorem course_unstamped (batch : Json) :
    course (unstamped batch) = (course batch).map (Element.unstamped <$> ·) := by
  rw [course, unstamped, Json.memberEach_update fun _ => rfl]
  refine courseIn_map fun entry => ?_
  rw [Json.memberEach_update fun _ => rfl]
  refine courseIn_map fun change => ?_
  rw [changeElements_unstamped]
  exact courseIn_map fun e => rfl

theorem member_object_unstamped (batch : Json) :
    (unstamped batch).member "object" = batch.member "object" :=
  Json.member_update_of_ne (by decide) ..

end Inbox

end ChatFlow
