import ChatFlow.Proofs.Json.Literal
import ChatFlow.Proofs.Json.Number

/-!
# The grammar behind the reader

`Reads` says which value, items or fields a text starts with and what is left of it, without the fuel
of the reader. Two relations are free in it: which literals may name a field, and which may be a
text. `reads_of_parse` finds a derivation for a text that is read, and `Reads.parse_eq` reads a text
that has one.
-/

namespace ChatFlow.Json

open Reader

/-- What a part of a text stands for. -/
inductive Form where
  | value (v : Json)
  | items (vs : List Json)
  | fields (fs : List (String × Json))

/-- What is left of a text lets a value end. -/
def Closed (r : List Char) : Prop := ∀ c ∈ (skip r).head?, c = ',' ∨ c = ']' ∨ c = '}'

/-- A derivation. A name of a field is to be in `K`, any other literal in `V`. -/
inductive Reads (K V : List Char → String → Prop) : Nat → List Char → Form → List Char → Prop
  | nullWord {d : Nat} {r : List Char} :
      Reads K V d ('n' :: 'u' :: 'l' :: 'l' :: r) (.value .null) r
  | trueWord {d : Nat} {r : List Char} :
      Reads K V d ('t' :: 'r' :: 'u' :: 'e' :: r) (.value (.bool true)) r
  | falseWord {d : Nat} {r : List Char} :
      Reads K V d ('f' :: 'a' :: 'l' :: 's' :: 'e' :: r) (.value (.bool false)) r
  | text {d : Nat} {b r : List Char} {s : String} (h : V b s) :
      Reads K V d ('"' :: (b ++ '"' :: r)) (.value (.str s)) r
  | number {d : Nat} {c : Char} {part r : List Char} {v : Json}
      (numeric : ∀ c' ∈ c :: part, isNumeric c' = true)
      (reads : ∀ r', Stops goesOn r' → Reader.number (c :: part ++ r') = .ok (v, r'))
      (closed : Closed r) : Reads K V d (c :: part ++ r) (.value v) r
  | emptyArr {d : Nat} {cs r : List Char} (close : skip cs = ']' :: r) :
      Reads K V (d + 1) ('[' :: cs) (.value (.arr [])) r
  | arr {d : Nat} {cs r : List Char} {vs : List Json} (h : Reads K V d (skip cs) (.items vs) r) :
      Reads K V (d + 1) ('[' :: cs) (.value (.arr vs)) r
  | emptyObj {d : Nat} {cs r : List Char} (close : skip cs = '}' :: r) :
      Reads K V (d + 1) ('{' :: cs) (.value (.obj [])) r
  | obj {d : Nat} {cs r : List Char} {fs : List (String × Json)}
      (h : Reads K V d (skip cs) (.fields fs) r) :
      Reads K V (d + 1) ('{' :: cs) (.value (.obj (Assoc.ofEntries fs))) r
  | lastItem {d : Nat} {cs r r' : List Char} {v : Json} (h : Reads K V d cs (.value v) r)
      (close : skip r = ']' :: r') : Reads K V d cs (.items [v]) r'
  | item {d : Nat} {cs r r₁ r' : List Char} {v : Json} {vs : List Json}
      (h : Reads K V d cs (.value v) r) (comma : skip r = ',' :: r₁)
      (more : Reads K V d (skip r₁) (.items vs) r') : Reads K V d cs (.items (v :: vs)) r'
  | lastField {d : Nat} {b r r₁ r₂ r' : List Char} {k : String} {v : Json} (key : K b k)
      (colon : skip r = ':' :: r₁) (h : Reads K V d (skip r₁) (.value v) r₂)
      (close : skip r₂ = '}' :: r') : Reads K V d ('"' :: (b ++ '"' :: r)) (.fields [(k, v)]) r'
  | field {d : Nat} {b r r₁ r₂ r₃ r' : List Char} {k : String} {v : Json}
      {fs : List (String × Json)} (key : K b k) (colon : skip r = ':' :: r₁)
      (h : Reads K V d (skip r₁) (.value v) r₂) (comma : skip r₂ = ',' :: r₃)
      (more : Reads K V d (skip r₃) (.fields fs) r') :
      Reads K V d ('"' :: (b ++ '"' :: r)) (.fields ((k, v) :: fs)) r'

variable {K V : List Char → String → Prop} {d : Nat} {cs r : List Char} {form : Form}

/-! ### Blanks -/

theorem length_skip_le (cs : List Char) : (skip cs).length ≤ cs.length :=
  (List.dropWhile_sublist isBlank).length_le

theorem skip_of_not_isBlank {c : Char} (h : isBlank c = false) (cs : List Char) :
    skip (c :: cs) = c :: cs := by
  rw [skip, List.dropWhile_cons_of_neg (by simp [h])]

theorem Closed.of_skip_eq_cons {c : Char} (h : skip cs = c :: r) (hc : c = ',' ∨ c = ']' ∨ c = '}') :
    Closed cs := by
  intro c' hc'
  rw [h] at hc'
  cases hc'
  exact hc

theorem Closed.of_skip_eq_nil (h : skip cs = []) : Closed cs := by
  intro c hc
  rw [h] at hc
  cases hc

theorem Closed.stops (h : Closed cs) : Stops goesOn cs := by
  intro c hc
  cases cs with
  | nil => cases hc
  | cons c' cs =>
    cases hc
    cases hb : isBlank c with
    | true =>
      simp only [isBlank, Bool.or_eq_true, beq_iff_eq] at hb
      rcases hb with ((rfl | rfl) | rfl) | rfl <;> rfl
    | false =>
      rcases h c (by rw [skip_of_not_isBlank hb]; rfl) with rfl | rfl | rfl <;> rfl

theorem Closed.opensValue (h : Closed cs) : opensValue cs = false := by
  unfold Json.opensValue
  cases hs : skip cs with
  | nil => rfl
  | cons c r =>
    rcases h c (by rw [hs]; rfl) with rfl | rfl | rfl <;> rfl

theorem opensValue_of_skip_eq (h : skip cs = ':' :: r) : opensValue cs = true := by
  rw [opensValue, h]; rfl

/-! ### What a derivation consumes -/

/-- A character that a value or a field starts with. -/
def starts (c : Char) : Bool :=
  isNumeric c || c == '"' || c == '[' || c == '{'

namespace Reads

theorem starts_head (h : Reads K V d cs form r) : ∃ c cs', cs = c :: cs' ∧ starts c = true := by
  induction h with
  | nullWord => exact ⟨_, _, rfl, rfl⟩
  | trueWord => exact ⟨_, _, rfl, rfl⟩
  | falseWord => exact ⟨_, _, rfl, rfl⟩
  | text => exact ⟨_, _, rfl, rfl⟩
  | number numeric => exact ⟨_, _, rfl, by simp [starts, numeric _ List.mem_cons_self]⟩
  | emptyArr => exact ⟨_, _, rfl, rfl⟩
  | arr => exact ⟨_, _, rfl, rfl⟩
  | emptyObj => exact ⟨_, _, rfl, rfl⟩
  | obj => exact ⟨_, _, rfl, rfl⟩
  | lastItem _ _ ih => exact ih
  | item _ _ _ ih => exact ih
  | lastField => exact ⟨_, _, rfl, rfl⟩
  | field => exact ⟨_, _, rfl, rfl⟩

theorem length_lt (h : Reads K V d cs form r) : r.length < cs.length := by
  induction h with
  | nullWord => simp; omega
  | trueWord => simp; omega
  | falseWord => simp; omega
  | text => simp; omega
  | number => rw [List.length_append, List.length_cons]; omega
  | @emptyArr d cs r close =>
    have := length_skip_le cs
    rw [close] at this
    simp at this ⊢; omega
  | @arr d cs r vs h ih =>
    have := length_skip_le cs
    simp; omega
  | @emptyObj d cs r close =>
    have := length_skip_le cs
    rw [close] at this
    simp at this ⊢; omega
  | @obj d cs r fs h ih =>
    have := length_skip_le cs
    simp; omega
  | @lastItem d cs r r' v h close ih =>
    have := length_skip_le r
    rw [close] at this
    simp at this; omega
  | @item d cs r r₁ r' v vs h comma more ih ih' =>
    have := length_skip_le r
    have := length_skip_le r₁
    rw [comma] at *
    simp at *; omega
  | @lastField d b r r₁ r₂ r' k v key colon h close ih =>
    have hr := length_skip_le r
    have := length_skip_le r₁
    have hr₂ := length_skip_le r₂
    rw [colon] at hr
    rw [close] at hr₂
    simp at *; omega
  | @field d b r r₁ r₂ r₃ r' k v fs key colon h comma more ih ih' =>
    have hr := length_skip_le r
    have := length_skip_le r₁
    have hr₂ := length_skip_le r₂
    have := length_skip_le r₃
    rw [colon] at hr
    rw [comma] at hr₂
    simp at *; omega

theorem literals_of_skip {c : Char} {r r₁ : List Char} (h : skip r = c :: r₁) (hc : c ≠ '"') :
    literals r = literals (skip r₁) := by
  rw [← literals_skip r, h, literals_cons_of_ne hc, literals_skip]

/-- The literals of what is left are the last ones. -/
theorem literals_suffix (hK : ∀ b s, K b s → Spells b s) (hV : ∀ b s, V b s → Spells b s)
    (h : Reads K V d cs form r) : literals r <:+ literals cs := by
  induction h with
  | nullWord => exact List.suffix_refl _
  | trueWord => exact List.suffix_refl _
  | falseWord => exact List.suffix_refl _
  | text h =>
    rw [literals_of_spells (hV _ _ h)]
    exact List.suffix_cons ..
  | @number d c part r v numeric reads closed =>
    have hne : ∀ c' ∈ c :: part, c' ≠ '"' := by
      rintro c' hc' rfl
      exact absurd (numeric _ hc') (by decide)
    exact ⟨[], (literals_append_of_ne hne).symm⟩
  | @emptyArr d cs r close =>
    have heq : literals r = literals cs := by
      rw [← literals_skip cs, close, literals_cons_of_ne (by decide)]
    exact ⟨[], heq.trans (literals_cons_of_ne (by decide)).symm⟩
  | @arr d cs r vs h ih =>
    rwa [literals_cons_of_ne (by decide), ← literals_skip cs]
  | @emptyObj d cs r close =>
    have heq : literals r = literals cs := by
      rw [← literals_skip cs, close, literals_cons_of_ne (by decide)]
    exact ⟨[], heq.trans (literals_cons_of_ne (by decide)).symm⟩
  | @obj d cs r fs h ih =>
    rwa [literals_cons_of_ne (by decide), ← literals_skip cs]
  | @lastItem d cs r r' v h close ih =>
    rw [literals_of_skip close (by decide), literals_skip] at ih
    exact ih
  | @item d cs r r₁ r' v vs h comma more ih ih' =>
    rw [literals_of_skip comma (by decide)] at ih
    exact ih'.trans ih
  | @lastField d b r r₁ r₂ r' k v key colon h close ih =>
    rw [literals_of_spells (hK _ _ key), literals_of_skip colon (by decide)]
    rw [literals_of_skip close (by decide), literals_skip] at ih
    exact ih.trans (List.suffix_cons ..)
  | @field d b r r₁ r₂ r₃ r' k v fs key colon h comma more ih ih' =>
    rw [literals_of_spells (hK _ _ key), literals_of_skip colon (by decide)]
    rw [literals_of_skip comma (by decide)] at ih
    exact (ih'.trans ih).trans (List.suffix_cons ..)

end Reads

/-! ### What is read has a derivation -/

/-- All literals of a text are admitted, as names or as texts. -/
def Admits (K V : List Char → String → Prop) (cs : List Char) : Prop :=
  ∀ l ∈ literals cs, ∀ s, Spells l.body s → if l.isKey then K l.body s else V l.body s

theorem Admits.of_suffix {cs' : List Char} (h : Admits K V cs) (hs : literals cs' <:+ literals cs) :
    Admits K V cs' :=
  fun l hl => h l (hs.subset hl)

/-- Whatever the reader reads with some fuel has a derivation. -/
structure SoundAt (K V : List Char → String → Prop) (f : Nat) : Prop where
  value {d : Nat} {cs r : List Char} {v : Json} : Admits K V cs →
    Reader.value d f cs = .ok (v, r) → Closed r → Reads K V d cs (.value v) r
  items {d : Nat} {cs r : List Char} {vs : List Json} : Admits K V cs →
    Reader.items d f cs = .ok (vs, r) → Reads K V d cs (.items vs) r
  fields {d : Nat} {cs r : List Char} {fs : List (String × Json)} : Admits K V cs →
    Reader.fields d f cs = .ok (fs, r) → Reads K V d cs (.fields fs) r

namespace SoundAt

variable {f : Nat} {v : Json} {vs : List Json} {fs : List (String × Json)}

theorem value_succ (hf : SoundAt K V f) (ha : Admits K V cs)
    (h : Reader.value d (f + 1) cs = .ok (v, r)) (hr : Closed r) : Reads K V d cs (.value v) r := by
  rw [Reader.value.eq_def] at h
  dsimp only at h
  split at h
  · cases h; exact .nullWord
  · cases h; exact .trueWord
  · cases h; exact .falseWord
  · obtain ⟨⟨s, r₁⟩, ht, h⟩ := ok_of_bind h
    cases h
    obtain ⟨b, rfl, hs, -⟩ := text_split ht
    have hb := ha _ (by rw [literals_of_spells hs]; exact List.mem_cons_self) s hs
    simp only [hr.opensValue, Bool.false_eq_true, if_false] at hb
    exact .text hb
  · rename_i cs
    split at h
    · cases h
    · rename_i hd
      obtain ⟨d, rfl⟩ := Nat.exists_eq_succ_of_ne_zero hd
      split at h
      · rename_i close; cases h; exact .emptyArr close
      · obtain ⟨⟨vs, r₁⟩, hvs, h⟩ := ok_of_bind h
        cases h
        rw [Admits, literals_cons_of_ne (by decide), ← literals_skip] at ha
        exact .arr (hf.items ha hvs)
  · rename_i cs
    split at h
    · cases h
    · rename_i hd
      obtain ⟨d, rfl⟩ := Nat.exists_eq_succ_of_ne_zero hd
      split at h
      · rename_i close; cases h; exact .emptyObj close
      · obtain ⟨⟨fs, r₁⟩, hfs, h⟩ := ok_of_bind h
        cases h
        rw [Admits, literals_cons_of_ne (by decide), ← literals_skip] at ha
        exact .obj (hf.fields ha hfs)
  · obtain ⟨c, part, rfl, hnumeric, hreads⟩ := number_split h hr.stops
    exact .number hnumeric hreads hr

variable (hK : ∀ b s, K b s → Spells b s) (hV : ∀ b s, V b s → Spells b s)
include hK hV

theorem items_succ (hf : SoundAt K V f) (ha : Admits K V cs)
    (h : Reader.items d (f + 1) cs = .ok (vs, r)) : Reads K V d cs (.items vs) r := by
  rw [Reader.items.eq_def] at h
  obtain ⟨⟨v, r₁⟩, hv, h⟩ := ok_of_bind h
  dsimp only at h
  split at h
  · rename_i close
    cases h
    exact .lastItem (hf.value ha hv (.of_skip_eq_cons close (by simp))) close
  · rename_i r₂ comma
    have hv := hf.value ha hv (.of_skip_eq_cons comma (by simp))
    obtain ⟨⟨vs, r₃⟩, hvs, h⟩ := ok_of_bind h
    cases h
    have hsuffix := hv.literals_suffix hK hV
    rw [Reads.literals_of_skip comma (by decide)] at hsuffix
    exact .item hv comma (hf.items (ha.of_suffix hsuffix) hvs)
  · cases h

theorem fields_succ (hf : SoundAt K V f) (ha : Admits K V cs)
    (h : Reader.fields d (f + 1) cs = .ok (fs, r)) : Reads K V d cs (.fields fs) r := by
  rw [Reader.fields.eq_def] at h
  dsimp only at h
  split at h
  · obtain ⟨⟨k, r₁⟩, ht, hrest⟩ := ok_of_bind h
    obtain ⟨b, rfl, hs, -⟩ := text_split ht
    -- The literal is a name, since a colon comes next; what follows it has its own literals.
    clear h
    dsimp only at hrest
    split at hrest
    · rename_i r₂ colon
      have hb := ha _ (by rw [literals_of_spells hs]; exact List.mem_cons_self) k hs
      rw [opensValue_of_skip_eq colon] at hb
      have hsuffix : literals (skip r₂) <:+ literals ('"' :: (b ++ '"' :: r₁)) := by
        rw [literals_of_spells hs, Reads.literals_of_skip colon (by decide)]
        exact List.suffix_cons ..
      obtain ⟨⟨v, r₃⟩, hv, hrest⟩ := ok_of_bind hrest
      dsimp only at hrest
      split at hrest
      · rename_i close
        cases hrest
        exact .lastField hb colon
          (hf.value (ha.of_suffix hsuffix) hv (.of_skip_eq_cons close (by simp))) close
      · rename_i r₄ comma
        have hv := hf.value (ha.of_suffix hsuffix) hv (.of_skip_eq_cons comma (by simp))
        obtain ⟨⟨fs, r₅⟩, hfs, hrest⟩ := ok_of_bind hrest
        cases hrest
        have hmore := hv.literals_suffix hK hV
        rw [Reads.literals_of_skip comma (by decide)] at hmore
        exact .field hb colon hv comma (hf.fields (ha.of_suffix (hmore.trans hsuffix)) hfs)
      · cases hrest
    · cases hrest
  · cases h

end SoundAt

theorem soundAt (hK : ∀ b s, K b s → Spells b s) (hV : ∀ b s, V b s → Spells b s) (f : Nat) :
    SoundAt K V f := by
  induction f with
  | zero =>
    refine ⟨fun _ h => ?_, fun _ h => ?_, fun _ h => ?_⟩
    · rw [Reader.value] at h; cases h
    · rw [Reader.items] at h; cases h
    · rw [Reader.fields] at h; cases h
  | succ f ih => exact ⟨ih.value_succ, ih.items_succ hK hV, ih.fields_succ hK hV⟩

/-! ### What has a derivation is read -/

/-- A reader comes to what a form says. -/
def Form.IsRead (d f : Nat) (cs : List Char) (form : Form) (r : List Char) : Prop :=
  match form with
  | .value v => Reader.value d f cs = .ok (v, r)
  | .items vs => Reader.items d f cs = .ok (vs, r)
  | .fields fs => Reader.fields d f cs = .ok (fs, r)

section Steps

variable {f : Nat} {k : String} {v : Json} {vs : List Json} {fs : List (String × Json)}
  {r₁ r₂ r₃ r' : List Char}

/-- Nothing that starts a word, a text, a list or an object starts a number. -/
theorem value_eq_number (f : Nat) (h : number cs ≠ .error .notJson) :
    value d (f + 1) cs = number cs := by
  rw [value.eq_def]
  dsimp only
  split
  all_goals first
    | rfl
    | exact absurd rfl h

theorem value_arr (hclose : ∀ r', skip cs ≠ ']' :: r') (h : items d f (skip cs) = .ok (vs, r)) :
    value (d + 1) (f + 1) ('[' :: cs) = .ok (.arr vs, r) := by
  rw [value, if_neg (Nat.succ_ne_zero d)]
  split
  · rename_i close
    exact absurd close (hclose _)
  · rw [Nat.add_sub_cancel, h]; rfl

theorem value_obj (hclose : ∀ r', skip cs ≠ '}' :: r') (h : fields d f (skip cs) = .ok (fs, r)) :
    value (d + 1) (f + 1) ('{' :: cs) = .ok (.obj (Assoc.ofEntries fs), r) := by
  rw [value, if_neg (Nat.succ_ne_zero d)]
  split
  · rename_i close
    exact absurd close (hclose _)
  · rw [Nat.add_sub_cancel, h]; rfl

theorem items_last (hv : value d f cs = .ok (v, r)) (close : skip r = ']' :: r') :
    items d (f + 1) cs = .ok ([v], r') := by
  rw [items.eq_def]
  simp only [hv, bind, Except.bind]
  rw [close]
  rfl

theorem items_more (hv : value d f cs = .ok (v, r)) (comma : skip r = ',' :: r₁)
    (hvs : items d f (skip r₁) = .ok (vs, r')) : items d (f + 1) cs = .ok (v :: vs, r') := by
  rw [items.eq_def]
  simp only [hv, bind, Except.bind]
  rw [comma]
  simp only [hvs]
  rfl

theorem fields_last (hk : text cs = .ok (k, r)) (colon : skip r = ':' :: r₁)
    (hv : value d f (skip r₁) = .ok (v, r₂)) (close : skip r₂ = '}' :: r') :
    fields d (f + 1) ('"' :: cs) = .ok ([(k, v)], r') := by
  rw [fields.eq_def]
  simp only [hk, bind, Except.bind]
  rw [colon]
  simp only [hv]
  rw [close]
  rfl

theorem fields_more (hk : text cs = .ok (k, r)) (colon : skip r = ':' :: r₁)
    (hv : value d f (skip r₁) = .ok (v, r₂)) (comma : skip r₂ = ',' :: r₃)
    (hfs : fields d f (skip r₃) = .ok (fs, r')) :
    fields d (f + 1) ('"' :: cs) = .ok ((k, v) :: fs, r') := by
  rw [fields.eq_def]
  simp only [hk, bind, Except.bind]
  rw [colon]
  simp only [hv]
  rw [comma]
  simp only [hfs]
  rfl

end Steps

namespace Reads

theorem skip_ne_close {c : Char} (h : Reads K V d (skip cs) form r) (hc : starts c = false)
    (r' : List Char) : skip cs ≠ c :: r' := by
  intro heq
  obtain ⟨c', cs', hcs, hstarts⟩ := h.starts_head
  rw [heq] at hcs
  cases hcs
  rw [hc] at hstarts
  cases hstarts

variable (hK : ∀ b s, K b s → Spells b s) (hV : ∀ b s, V b s → Spells b s)
include hK hV

/-- A reader with two units of fuel for each character that a derivation consumes comes to what it
says. -/
theorem complete (h : Reads K V d cs form r) :
    ∀ f, 2 * cs.length ≤ f + 1 + 2 * r.length → form.IsRead d f cs r := by
  have enough (cs r : List Char) {f : Nat} (hlt : r.length < cs.length)
      (hf : 2 * cs.length ≤ f + 1 + 2 * r.length) : ∃ f', f = f' + 1 := ⟨f - 1, by omega⟩
  induction h with
  | nullWord =>
    intro f hf
    obtain ⟨f, rfl⟩ := enough _ _ (by simp; omega) hf
    rfl
  | trueWord =>
    intro f hf
    obtain ⟨f, rfl⟩ := enough _ _ (by simp; omega) hf
    rfl
  | falseWord =>
    intro f hf
    obtain ⟨f, rfl⟩ := enough _ _ (by simp; omega) hf
    rfl
  | @text d b r s h =>
    intro f hf
    obtain ⟨f, rfl⟩ := enough _ _ (by simp; omega) hf
    show value _ _ _ = _
    rw [value, hV b s h r]
    rfl
  | @number d c part r v numeric reads closed =>
    intro f hf
    have hlt : r.length < (c :: part ++ r).length := by
      rw [List.length_append, List.length_cons]; omega
    obtain ⟨f, rfl⟩ := enough _ _ hlt hf
    have hnumber := reads r closed.stops
    exact (value_eq_number f (by rw [hnumber]; exact nofun)).trans hnumber
  | @emptyArr d cs r close =>
    intro f hf
    have hlt := (emptyArr (K := K) (V := V) (d := d) close).length_lt
    obtain ⟨f, rfl⟩ := enough _ _ hlt hf
    show value _ _ _ = _
    rw [value, if_neg (Nat.succ_ne_zero d), close]
    rfl
  | @arr d cs r vs h ih =>
    intro f hf
    have hlt := h.length_lt
    have hskip := length_skip_le cs
    simp only [List.length_cons] at hf
    obtain ⟨f, rfl⟩ := enough ('[' :: cs) r (by simp; omega) (by simp; omega)
    exact value_arr (h.skip_ne_close rfl) (ih f (by omega))
  | @emptyObj d cs r close =>
    intro f hf
    have hlt := (emptyObj (K := K) (V := V) (d := d) close).length_lt
    obtain ⟨f, rfl⟩ := enough _ _ hlt hf
    show value _ _ _ = _
    rw [value, if_neg (Nat.succ_ne_zero d), close]
    rfl
  | @obj d cs r fs h ih =>
    intro f hf
    have hlt := h.length_lt
    have hskip := length_skip_le cs
    simp only [List.length_cons] at hf
    obtain ⟨f, rfl⟩ := enough ('{' :: cs) r (by simp; omega) (by simp; omega)
    exact value_obj (h.skip_ne_close rfl) (ih f (by omega))
  | @lastItem d cs r r' v h close ih =>
    intro f hf
    have hlt := h.length_lt
    have hskip := length_skip_le r
    rw [close, List.length_cons] at hskip
    obtain ⟨f, rfl⟩ := enough cs r' (by omega) hf
    -- The items and their last value start at the same character: the bracket pays for both calls.
    exact items_last (ih f (by omega)) close
  | @item d cs r r₁ r' v vs h comma more ih ih' =>
    intro f hf
    have hlt := h.length_lt
    have hlt' := more.length_lt
    have hskip := length_skip_le r
    have hskip' := length_skip_le r₁
    rw [comma, List.length_cons] at hskip
    obtain ⟨f, rfl⟩ := enough cs r' (by omega) hf
    exact items_more (ih f (by omega)) comma (ih' f (by omega))
  | @lastField d b r r₁ r₂ r' k v key colon h close ih =>
    intro f hf
    have hlt := h.length_lt
    have hskip := length_skip_le r
    have hskip₁ := length_skip_le r₁
    have hskip₂ := length_skip_le r₂
    rw [colon, List.length_cons] at hskip
    rw [close, List.length_cons] at hskip₂
    simp only [List.length_cons, List.length_append] at hf
    obtain ⟨f, rfl⟩ := enough ('"' :: (b ++ '"' :: r)) r' (by simp; omega) (by simp; omega)
    exact fields_last (hK b k key r) colon (ih f (by omega)) close
  | @field d b r r₁ r₂ r₃ r' k v fs key colon h comma more ih ih' =>
    intro f hf
    have hlt := h.length_lt
    have hlt' := more.length_lt
    have hskip := length_skip_le r
    have hskip₁ := length_skip_le r₁
    have hskip₂ := length_skip_le r₂
    have hskip₃ := length_skip_le r₃
    rw [colon, List.length_cons] at hskip
    rw [comma, List.length_cons] at hskip₂
    simp only [List.length_cons, List.length_append] at hf
    obtain ⟨f, rfl⟩ := enough ('"' :: (b ++ '"' :: r)) r' (by simp; omega) (by simp; omega)
    exact fields_more (hK b k key r) colon (ih f (by omega)) comma (ih' f (by omega))

end Reads

/-! ### Whole texts -/

section Text

variable {t : String} {v : Json}
variable (hK : ∀ b s, K b s → Spells b s) (hV : ∀ b s, V b s → Spells b s)
include hK hV

theorem reads_of_parse (ha : Admits K V t.toList) (h : parse t = some v) :
    ∃ r, Reads K V maxDepth (skip t.toList) (.value v) r ∧ skip r = [] := by
  unfold parse read at h
  split at h
  · rename_i v' r hv
    split at h
    · rename_i hempty
      cases h
      have hr : skip r = [] := List.isEmpty_iff.1 hempty
      rw [Admits, ← literals_skip] at ha
      exact ⟨r, (soundAt hK hV _).value ha hv (.of_skip_eq_nil hr), hr⟩
    · cases h
  · cases h

theorem Reads.parse_eq (h : Reads K V maxDepth (skip t.toList) (.value v) r) (hr : skip r = []) :
    parse t = some v := by
  have hlen := length_skip_le t.toList
  rw [String.length_toList] at hlen
  have hv : value maxDepth (2 * t.length + 2) (skip t.toList) = .ok (v, r) :=
    h.complete hK hV _ (by omega)
  rw [parse, read, hv]
  simp only [hr]
  rfl

end Text

end ChatFlow.Json
