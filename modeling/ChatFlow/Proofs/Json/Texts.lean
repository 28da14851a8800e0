import ChatFlow.Json.Reader

/-!
# The texts in a value

`mapTexts` changes the texts in a value, wherever they are, and nothing else: the `shape` of the
value, which is what is left of it without its texts, stays the same (`shape_mapTexts`).
-/

namespace ChatFlow

namespace Assoc

variable {α β : Type} (g : α → β)

theorem put_map (m : Assoc α) (k : String) (v : α) :
    put (m.map fun e => (e.1, g e.2)) k (g v) = (put m k v).map fun e => (e.1, g e.2) := by
  induction m with
  | nil => rfl
  | cons e m ih =>
    rw [List.map_cons, put, put]
    split
    · rfl
    · rw [ih]; rfl

theorem ofEntries_map (entries : List (String × α)) :
    ofEntries (entries.map fun e => (e.1, g e.2)) =
      (ofEntries entries).map fun e => (e.1, g e.2) := by
  have hput (m : Assoc α) : (entries.map fun e => (e.1, g e.2)).foldl (fun m e => put m e.1 e.2)
      (m.map fun e => (e.1, g e.2)) =
        (entries.foldl (fun m e => put m e.1 e.2) m).map fun e => (e.1, g e.2) := by
    induction entries generalizing m with
    | nil => rfl
    | cons e entries ih => rw [List.map_cons, List.foldl_cons, List.foldl_cons, put_map, ih]
  exact hput []

end Assoc

namespace Json

mutual

/-- A value with each of its texts changed. The names of fields stay. -/
def mapTexts (f : String → String) : Json → Json
  | null => null
  | bool b => bool b
  | int n => int n
  | float x => float x
  | str s => str (f s)
  | arr items => arr (mapItems f items)
  | obj fields => obj (mapFields f fields)

def mapItems (f : String → String) : List Json → List Json
  | [] => []
  | v :: vs => mapTexts f v :: mapItems f vs

def mapFields (f : String → String) : List (String × Json) → List (String × Json)
  | [] => []
  | (k, v) :: fs => (k, mapTexts f v) :: mapFields f fs

end

/-- What is left of a value without its texts: names, nesting, and everything that is no text. -/
def shape (v : Json) : Json := v.mapTexts fun _ => ""

variable (f g : String → String)

mutual

theorem mapTexts_mapTexts (v : Json) : (v.mapTexts f).mapTexts g = v.mapTexts fun s => g (f s) := by
  cases v with
  | arr items => simp only [mapTexts, mapItems_mapItems items]
  | obj fields => simp only [mapTexts, mapFields_mapFields fields]
  | _ => rfl

theorem mapItems_mapItems (vs : List Json) :
    mapItems g (mapItems f vs) = mapItems (fun s => g (f s)) vs := by
  cases vs with
  | nil => rfl
  | cons v vs => simp only [mapItems, mapTexts_mapTexts v, mapItems_mapItems vs]

theorem mapFields_mapFields (fs : List (String × Json)) :
    mapFields g (mapFields f fs) = mapFields (fun s => g (f s)) fs := by
  cases fs with
  | nil => rfl
  | cons e fs => simp only [mapFields, mapTexts_mapTexts e.2, mapFields_mapFields fs]

end

mutual

@[simp] theorem mapTexts_self (v : Json) : (v.mapTexts fun s => s) = v := by
  cases v with
  | arr items => simp only [mapTexts, mapItems_self items]
  | obj fields => simp only [mapTexts, mapFields_self fields]
  | _ => rfl

@[simp] theorem mapItems_self (vs : List Json) : mapItems (fun s => s) vs = vs := by
  cases vs with
  | nil => rfl
  | cons v vs => simp only [mapItems, mapTexts_self v, mapItems_self vs]

@[simp] theorem mapFields_self (fs : List (String × Json)) : mapFields (fun s => s) fs = fs := by
  cases fs with
  | nil => rfl
  | cons e fs => simp only [mapFields, mapTexts_self e.2, mapFields_self fs]

end

@[simp] theorem shape_mapTexts (v : Json) : (v.mapTexts f).shape = v.shape :=
  mapTexts_mapTexts f _ v

theorem mapFields_eq_map (fs : List (String × Json)) :
    mapFields f fs = fs.map fun e => (e.1, e.2.mapTexts f) := by
  induction fs with
  | nil => rfl
  | cons e fs ih => rw [mapFields, ih]; rfl

theorem mapFields_ofEntries (fs : List (String × Json)) :
    mapFields f (Assoc.ofEntries fs) = Assoc.ofEntries (mapFields f fs) := by
  rw [mapFields_eq_map, mapFields_eq_map, Assoc.ofEntries_map]

theorem mapTexts_of_number {cs r : List Char} {v : Json} (h : Reader.number cs = .ok (v, r)) :
    v.mapTexts f = v := by
  have magnitude {negative : Bool} {cs : List Char} (h : Reader.magnitude negative cs = .ok (v, r)) :
      v.mapTexts f = v := by
    unfold Reader.magnitude at h
    split at h
    · cases h
    · dsimp only at h
      split at h
      · split at h
        · cases h
        · cases h; rfl
      · cases h; rfl
  unfold Reader.number at h
  split at h
  · cases h; rfl
  · cases h; rfl
  · cases h; rfl
  · exact magnitude h
  · exact magnitude h

end Json

end ChatFlow
