/-!
# Maps in order of first insertion

`Assoc α` maps texts to values and keeps the keys in the order in which they first came: writing a
key again replaces its value where it stands. `get?_put` and `get?_erase` say what a look-up sees
after a write, `keys_put` where a key stands.
-/

namespace ChatFlow

/-- A map from texts, as the list of its entries. -/
abbrev Assoc (α : Type) := List (String × α)

namespace Assoc

variable {α : Type}

def get? : Assoc α → String → Option α
  | [], _ => none
  | (k', v) :: m, k => if k' = k then some v else get? m k

/-- Write a key: in place if it is there, at the end if not. -/
def put : Assoc α → String → α → Assoc α
  | [], k, v => [(k, v)]
  | (k', v') :: m, k, v => if k' = k then (k', v) :: m else (k', v') :: put m k v

def erase : Assoc α → String → Assoc α
  | [], _ => []
  | (k', v) :: m, k => if k' = k then erase m k else (k', v) :: erase m k

def keys (m : Assoc α) : List String := m.map (·.1)

def has (m : Assoc α) (k : String) : Bool := (get? m k).isSome

def putAll (m : Assoc α) (entries : List (String × α)) : Assoc α :=
  entries.foldl (fun m e => put m e.1 e.2) m

/-- The map of a list of entries: the last value of a key, at the key's first place. -/
def ofEntries (entries : List (String × α)) : Assoc α := putAll [] entries

@[simp] theorem get?_nil (k : String) : get? ([] : Assoc α) k = none := rfl

theorem get?_put (m : Assoc α) (k k' : String) (v : α) :
    get? (put m k v) k' = if k = k' then some v else get? m k' := by
  induction m with
  | nil => simp [put, get?]
  | cons e m ih =>
    obtain ⟨j, w⟩ := e
    by_cases hj : j = k
    · subst hj; by_cases h : j = k' <;> simp [put, get?, h]
    · by_cases h : j = k'
      · subst h; simp [put, get?, hj, Ne.symm hj]
      · simp [put, get?, hj, h, ih]

theorem get?_erase (m : Assoc α) (k k' : String) :
    get? (erase m k) k' = if k = k' then none else get? m k' := by
  induction m with
  | nil => simp [erase, get?]
  | cons e m ih =>
    obtain ⟨j, w⟩ := e
    by_cases hj : j = k
    · subst hj; by_cases h : j = k' <;> simp_all [erase, get?]
    · by_cases h : j = k'
      · subst h; simp [erase, get?, hj, Ne.symm hj]
      · simp [erase, get?, hj, h, ih]

@[simp] theorem get?_put_self (m : Assoc α) (k : String) (v : α) :
    get? (put m k v) k = some v := by simp [get?_put]

theorem get?_put_of_ne {k k' : String} (m : Assoc α) (v : α) (h : k ≠ k') :
    get? (put m k v) k' = get? m k' := by simp [get?_put, h]

theorem mem_keys_iff {m : Assoc α} {k : String} : k ∈ keys m ↔ (get? m k).isSome := by
  induction m with
  | nil => simp [keys, get?]
  | cons e m ih =>
    obtain ⟨j, w⟩ := e
    by_cases h : j = k
    · simp [keys, get?, h]
    · have : k ≠ j := Ne.symm h
      simpa [keys, get?, h, this] using ih

/-- A key that is there keeps its place, a new one goes to the end. -/
theorem keys_put (m : Assoc α) (k : String) (v : α) :
    keys (put m k v) = if k ∈ keys m then keys m else keys m ++ [k] := by
  induction m with
  | nil => simp [put, keys]
  | cons e m ih =>
    obtain ⟨j, w⟩ := e
    by_cases h : j = k
    · subst h; simp [put, keys]
    · have hk : k ≠ j := Ne.symm h
      have ih' : (put m k v).map (·.1) =
          if k ∈ m.map (·.1) then m.map (·.1) else m.map (·.1) ++ [k] := ih
      by_cases hm : k ∈ m.map (·.1) <;> simp_all [put, keys]

theorem mem_of_get? {m : Assoc α} {k : String} {v : α} (h : get? m k = some v) : (k, v) ∈ m := by
  induction m with
  | nil => cases h
  | cons e m ih =>
    obtain ⟨j, w⟩ := e
    rw [get?] at h
    split at h
    · cases h; subst_vars; exact List.mem_cons_self
    · exact List.mem_cons_of_mem _ (ih h)

theorem get?_eq_none_iff {m : Assoc α} {k : String} : get? m k = none ↔ k ∉ keys m := by
  rw [mem_keys_iff]; cases get? m k <;> simp

theorem eq_nil_of_get? {m : Assoc α} (h : ∀ k, get? m k = none) : m = [] := by
  cases m with
  | nil => rfl
  | cons e m => simpa [get?] using h e.1

/-- An entry after a write is the one that was written, or was there before. -/
theorem mem_put {m : Assoc α} {k : String} {v : α} {e : String × α} (h : e ∈ put m k v) :
    e = (k, v) ∨ e ∈ m := by
  induction m with
  | nil => exact Or.inl (List.mem_singleton.1 h)
  | cons e' m ih =>
    obtain ⟨j, w⟩ := e'
    rw [put] at h
    split at h <;> rcases List.mem_cons.1 h with rfl | h
    · subst_vars; exact Or.inl rfl
    · exact Or.inr (List.mem_cons_of_mem _ h)
    · exact Or.inr List.mem_cons_self
    · exact (ih h).imp_right (List.mem_cons_of_mem _)

theorem erase_put_self (m : Assoc α) (k : String) (v : α) : erase (put m k v) k = erase m k := by
  induction m with
  | nil => simp [put, erase]
  | cons e m ih =>
    obtain ⟨j, w⟩ := e
    by_cases h : j = k <;> simp [put, erase, h, ih]

theorem erase_sublist (m : Assoc α) (k : String) : List.Sublist (erase m k) m := by
  induction m with
  | nil => exact List.Sublist.slnil
  | cons e m ih =>
    rw [erase]; split
    · exact ih.cons _
    · exact ih.cons_cons _

theorem nodup_keys_put {m : Assoc α} (k : String) (v : α) (h : (keys m).Nodup) :
    (keys (put m k v)).Nodup := by
  rw [keys_put]; split
  · exact h
  · rename_i hk
    refine List.nodup_append.2 ⟨h, by simp, fun j hj i hi => ?_⟩
    rw [List.mem_singleton.1 hi]; rintro rfl; exact hk hj

/-- In a map without repeated keys, a look-up among some of the entries sees the entry of the key if
it is one of them. -/
theorem get?_filter {m : Assoc α} (p : α → Bool) (h : (keys m).Nodup) (k : String) :
    get? (m.filter fun e => p e.2) k = (get? m k).filter p := by
  induction m with
  | nil => rfl
  | cons e m ih =>
    obtain ⟨j, w⟩ := e
    obtain ⟨hj, hm⟩ := List.nodup_cons.1 h
    by_cases hk : j = k
    · subst hk
      have hnone : get? m j = none := get?_eq_none_iff.2 hj
      by_cases hp : p w <;> simp [hp, get?, Option.filter, ih hm, hnone]
    · by_cases hp : p w <;> simp [hp, get?, hk, ih hm]

theorem get?_of_mem {m : Assoc α} (h : (keys m).Nodup) {e : String × α} (he : e ∈ m) :
    get? m e.1 = some e.2 := by
  induction m with
  | nil => cases he
  | cons e' m ih =>
    obtain ⟨hj, hm⟩ := List.nodup_cons.1 h
    rcases List.mem_cons.1 he with rfl | he
    · simp [get?]
    · have hne : e'.1 ≠ e.1 := fun heq => hj (List.mem_map.2 ⟨e, he, heq.symm⟩)
      simp [get?, hne, ih hm he]

theorem filter_ne_eq_erase (m : Assoc α) (k : String) : (m.filter (·.1 != k)) = erase m k := by
  induction m with
  | nil => rfl
  | cons e m ih => by_cases h : e.1 = k <;> simp [erase, h, ih]

theorem nodup_keys_erase {m : Assoc α} (k : String) (h : (keys m).Nodup) :
    (keys (erase m k)).Nodup :=
  h.sublist ((erase_sublist m k).map _)

theorem nodup_keys_putAll {m : Assoc α} (entries : Assoc α) (h : (keys m).Nodup) :
    (keys (putAll m entries)).Nodup := by
  induction entries generalizing m with
  | nil => exact h
  | cons e entries ih => exact ih (nodup_keys_put e.1 e.2 h)

theorem put_of_not_mem {m : Assoc α} {k : String} {v : α} (h : k ∉ keys m) :
    put m k v = m ++ [(k, v)] := by
  induction m with
  | nil => rfl
  | cons e m ih =>
    obtain ⟨j, w⟩ := e
    obtain ⟨hne, hm⟩ := not_or.1 (mt List.mem_cons.2 h)
    rw [put, if_neg (Ne.symm hne), ih hm, List.cons_append]

theorem putAll_of_nodup {m entries : Assoc α} (h : (keys m ++ keys entries).Nodup) :
    putAll m entries = m ++ entries := by
  induction entries generalizing m with
  | nil => exact (List.append_nil m).symm
  | cons e entries ih =>
    have hnew : e.1 ∉ keys m := fun hmem =>
      (List.nodup_append.1 h).2.2 e.1 hmem e.1 List.mem_cons_self rfl
    have hput : put m e.1 e.2 = m ++ [e] := put_of_not_mem hnew
    have hcons : putAll m (e :: entries) = putAll (put m e.1 e.2) entries := rfl
    rw [hcons, hput, ih, List.append_assoc, List.singleton_append]
    rw [keys, List.map_append, List.append_assoc]
    exact h

/-- The entries of a map without repeated keys make this map. -/
theorem ofEntries_of_nodup {m : Assoc α} (h : (keys m).Nodup) : ofEntries m = m :=
  putAll_of_nodup (m := []) h

theorem mem_putAll {m : Assoc α} {entries : List (String × α)} {e : String × α}
    (h : e ∈ putAll m entries) : e ∈ m ∨ e ∈ entries := by
  induction entries generalizing m with
  | nil => exact Or.inl h
  | cons e' entries ih =>
    rcases ih h with h | h
    · rcases mem_put h with rfl | h
      · exact Or.inr List.mem_cons_self
      · exact Or.inl h
    · exact Or.inr (List.mem_cons_of_mem _ h)

/-- What is not written stays as it was. -/
theorem get?_putAll_of_not_mem {entries : Assoc α} {k : String} (h : k ∉ keys entries)
    (m : Assoc α) : get? (putAll m entries) k = get? m k := by
  induction entries generalizing m with
  | nil => rfl
  | cons e entries ih =>
    obtain ⟨hne, hrest⟩ := not_or.1 (mt List.mem_cons.2 h)
    have hcons : putAll m (e :: entries) = putAll (put m e.1 e.2) entries := rfl
    rw [hcons, ih hrest, get?_put_of_ne _ _ (Ne.symm hne)]

/-- What is written comes before what was there. -/
theorem get?_putAll {entries : Assoc α} (h : (keys entries).Nodup) (m : Assoc α) (k : String) :
    get? (putAll m entries) k = (get? entries k).or (get? m k) := by
  induction entries generalizing m with
  | nil => rfl
  | cons e entries ih =>
    obtain ⟨hj, hm⟩ := List.nodup_cons.1 h
    have hcons : putAll m (e :: entries) = putAll (put m e.1 e.2) entries := rfl
    rw [hcons, ih hm, get?_put]
    by_cases hk : e.1 = k
    · subst hk
      simp [get?, get?_eq_none_iff.2 hj]
    · simp [get?, hk]

end Assoc

end ChatFlow
