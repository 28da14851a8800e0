import ChatFlow.Proofs.Json.Grammar
import ChatFlow.Proofs.Json.Writing
import Mathlib.Data.Nat.Digits.Defs

/-!
# What was read can be written and read again

A value that has been read does not go too deep, its integers are not too long, and no object in it
repeats a key (`fits_of_parse`). An exact value of this kind is read from what is written for it
(`parse_render`): `reads_chars` finds the derivation, whatever may follow a value.
-/

namespace ChatFlow.Json

open Reader

variable {K V : List Char → String → Prop} {d : Nat} {cs r : List Char} {v : Json} {n : Nat}

/-! ### Integers -/

theorem digitsValue_toDigits (n : Nat) : digitsValue (Nat.toDigits 10 n) = n :=
  Nat.ofDigitChars_ten_toDigits

theorem toDigits_cases (n : Nat) : Nat.toDigits 10 n = ['0'] ∨
    ∃ c ds, Nat.toDigits 10 n = c :: ds ∧ c ≠ '0' := by
  induction n using Nat.strong_induction_on with
  | _ n ih =>
    rcases Nat.lt_or_ge n 10 with hlt | hle
    · have hall : ∀ n < 10, n.digitChar = '0' ∨ n.digitChar ≠ '0' := by decide
      rw [Nat.toDigits_of_lt_base hlt]
      rcases hall n hlt with h | h
      · exact Or.inl (by rw [h])
      · exact Or.inr ⟨_, [], rfl, h⟩
    · rw [Nat.toDigits_of_base_le (by decide) hle]
      rcases ih (n / 10) (by omega) with h | ⟨c, ds, h, hc⟩
      · -- Only zero is written as a lone zero.
        have hzero := digitsValue_toDigits (n / 10)
        rw [h] at hzero
        exact absurd hzero.symm (by simp [digitsValue]; omega)
      · exact Or.inr ⟨c, ds ++ [_], by rw [h]; rfl, hc⟩

theorem isDigit_toDigits (n : Nat) : ∀ c ∈ Nat.toDigits 10 n, c.isDigit = true :=
  fun _ hc => Nat.isDigit_of_mem_toDigits (by decide) (by decide) hc

theorem whole?_toDigits (n : Nat) (hr : Stops Char.isDigit r) :
    whole? (Nat.toDigits 10 n ++ r) = some (Nat.toDigits 10 n, r) := by
  have hdigits := digits_append (isDigit_toDigits n) hr
  rcases toDigits_cases n with h | ⟨c, ds, h, hc⟩
  · rw [h]; rfl
  · rw [h, List.cons_append] at hdigits ⊢
    unfold whole?
    split
    · rename_i heq; cases heq; exact absurd rfl hc
    · rw [hdigits]; rfl

theorem magnitude_toDigits (negative : Bool) (hn : n < 10 ^ Text.maxDigits) (hr : Stops goesOn r) :
    magnitude negative (Nat.toDigits 10 n ++ r) =
      .ok (.int (if negative then -(n : Int) else n), r) := by
  have hlen : (Nat.toDigits 10 n).length ≤ Text.maxDigits :=
    Nat.toDigits_length 10 n Text.maxDigits (by decide) hn
  simp only [magnitude, whole?_toDigits n hr.digit, places?_eq_none hr, power?_eq_none hr,
    Option.getD_none, if_neg (Nat.not_lt.2 hlen), digitsValue_toDigits]

theorem exists_toDigits_eq_cons (n : Nat) : ∃ c ds, Nat.toDigits 10 n = c :: ds := by
  rcases toDigits_cases n with h | ⟨c, ds, h, -⟩ <;> exact ⟨_, _, h⟩

theorem number_toString {n : Int} (hn : n.natAbs < 10 ^ Text.maxDigits) (hr : Stops goesOn r) :
    number ((toString n).toList ++ r) = .ok (.int n, r) := by
  obtain ⟨c, ds, hds⟩ := exists_toDigits_eq_cons n.natAbs
  have hc : c.isDigit = true := isDigit_toDigits n.natAbs c (by rw [hds]; exact List.mem_cons_self)
  have hmagnitude (negative : Bool) := magnitude_toDigits negative hn hr
  rw [hds, List.cons_append] at hmagnitude
  rw [toList_toString, hds]
  split
  · rename_i hneg
    have hvalue : -(n.natAbs : Int) = n := by omega
    rw [List.append_assoc, List.singleton_append, List.cons_append, number_minus hc,
      hmagnitude true, if_pos rfl, hvalue]
  · rename_i hpos
    have hvalue : (n.natAbs : Int) = n := by omega
    rw [List.nil_append, List.cons_append, number_of_isDigit hc, hmagnitude false, if_neg (by decide),
      hvalue]

theorem number_toString_of_le {n : Int} (hn : 10 ^ Text.maxDigits ≤ n.natAbs) :
    number (toString n).toList = .error .oversizedNumber := by
  have hmagnitude (negative : Bool) :
      magnitude negative (Nat.toDigits 10 n.natAbs) = .error .oversizedNumber := by
    have hlen : Text.maxDigits < (Nat.toDigits 10 n.natAbs).length := by
      rw [← Nat.not_le, Nat.length_toDigits_le_iff (by decide) (by decide)]
      exact Nat.not_lt.2 hn
    have hwhole := whole?_toDigits n.natAbs .nil
    rw [List.append_nil] at hwhole
    simp only [magnitude, hwhole, places?, power?, Option.getD_none, if_pos hlen]
  obtain ⟨c, ds, hds⟩ := exists_toDigits_eq_cons n.natAbs
  have hc : c.isDigit = true := isDigit_toDigits n.natAbs c (by rw [hds]; exact List.mem_cons_self)
  rw [hds] at hmagnitude
  rw [toList_toString, hds]
  split
  · rw [List.singleton_append, number_minus hc, hmagnitude]
  · rw [List.nil_append, number_of_isDigit hc, hmagnitude]

theorem digitsValue_lt {ds : List Char} (h : ∀ c ∈ ds, c.isDigit = true) :
    digitsValue ds < 10 ^ ds.length := by
  induction ds using List.reverseRecOn with
  | nil => simp [digitsValue]
  | append_singleton ds c ih =>
    obtain ⟨hds, hc⟩ := List.forall_mem_append.1 h
    have hdigit := hc c List.mem_cons_self
    have hnine : '9'.toNat = 57 := rfl
    rw [Char.isDigit_iff_toNat] at hdigit
    have hvalue : digitsValue (ds ++ [c]) = 10 * digitsValue ds + (c.toNat - 48) := by
      simp [digitsValue]
    have ih := ih hds
    rw [hvalue, List.length_append, List.length_singleton, pow_succ]
    omega

theorem isDigit_of_whole? {ds : List Char} (h : whole? cs = some (ds, r)) :
    ∀ c ∈ ds, c.isDigit = true := by
  unfold whole? at h
  split at h
  · cases h
    exact List.forall_mem_singleton.2 rfl
  · dsimp only at h
    split at h
    · cases h
    · simp only [Option.some.injEq, Prod.mk.injEq] at h
      exact (digits_eq (Prod.ext h.1 h.2)).2.1

/-! ### Values that were read -/

/-- A value goes no deeper than `d`, none of its integers is too long, and no object in it repeats a
key. -/
inductive Fits : Nat → Json → Prop
  | null {d : Nat} : Fits d .null
  | bool {d : Nat} (b : Bool) : Fits d (.bool b)
  | int {d : Nat} {n : Int} (h : n.natAbs < 10 ^ Text.maxDigits) : Fits d (.int n)
  | float {d : Nat} (x : Float) : Fits d (.float x)
  | str {d : Nat} (s : String) : Fits d (.str s)
  | arr {d : Nat} {vs : List Json} (h : ∀ v ∈ vs, Fits d v) : Fits (d + 1) (.arr vs)
  | obj {d : Nat} {fs : List (String × Json)} (hkeys : (Assoc.keys fs).Nodup)
      (h : ∀ e ∈ fs, Fits d e.2) : Fits (d + 1) (.obj fs)

theorem Fits.empty_arr {d : Nat} : Fits (d + 1) (.arr []) := .arr nofun

theorem Fits.empty_obj {d : Nat} : Fits (d + 1) (.obj []) := .obj List.nodup_nil nofun

/-- All values of a form fit. -/
def Form.Fits (d : Nat) : Form → Prop
  | value v => v.Fits d
  | items vs => ∀ v ∈ vs, v.Fits d
  | fields fs => ∀ e ∈ fs, e.2.Fits d

theorem fits_of_magnitude {negative : Bool} (h : magnitude negative cs = .ok (v, r)) : v.Fits d := by
  unfold magnitude at h
  split at h
  · cases h
  · rename_i ds r₁ hwhole
    dsimp only at h
    split at h
    · split at h
      · cases h
      · rename_i hlen
        have hlt : digitsValue ds < 10 ^ Text.maxDigits :=
          Nat.lt_of_lt_of_le (digitsValue_lt (isDigit_of_whole? hwhole))
            (Nat.pow_le_pow_right (by decide) (Nat.not_lt.1 hlen))
        cases h
        refine .int ?_
        split <;> omega
    · cases h
      exact .float _

theorem fits_of_number (h : number cs = .ok (v, r)) : v.Fits d := by
  unfold number at h
  split at h
  · cases h; exact .float _
  · cases h; exact .float _
  · cases h; exact .float _
  · exact fits_of_magnitude h
  · exact fits_of_magnitude h

theorem Reads.fits {form : Form} (h : Reads K V d cs form r) : form.Fits d := by
  induction h with
  | nullWord => exact .null
  | trueWord => exact .bool true
  | falseWord => exact .bool false
  | text => exact .str _
  | number numeric reads closed => exact fits_of_number (reads [] .nil)
  | emptyArr => exact .empty_arr
  | arr h ih => exact .arr ih
  | emptyObj => exact .empty_obj
  | obj h ih =>
    refine .obj (Assoc.nodup_keys_putAll _ List.nodup_nil) fun e he => ?_
    rcases Assoc.mem_putAll he with he | he
    · cases he
    · exact ih e he
  | lastItem h close ih => exact List.forall_mem_singleton.2 ih
  | item h comma more ih ih' => exact List.forall_mem_cons.2 ⟨ih, ih'⟩
  | lastField key colon h close ih => exact List.forall_mem_singleton.2 ih
  | field key colon h comma more ih ih' => exact List.forall_mem_cons.2 ⟨ih, ih'⟩

/-- All literals of a text are admitted if nothing is asked of them but to be read. -/
theorem admits_spells (cs : List Char) : Admits Spells Spells cs :=
  fun _ _ _ hs => by split <;> exact hs

theorem fits_of_parse {t : String} (h : parse t = some v) : v.Fits maxDepth := by
  obtain ⟨r, hreads, -⟩ := reads_of_parse (fun _ _ h => h) (fun _ _ h => h) (admits_spells _) h
  exact hreads.fits

/-! ### Reading what was written -/

theorem skip_of_starts {c : Char} (hc : starts c = true) (cs : List Char) :
    skip (c :: cs) = c :: cs := by
  refine skip_of_not_isBlank (eq_false_of_ne_true fun hblank => ?_) cs
  simp only [isBlank, Bool.or_eq_true, beq_iff_eq] at hblank
  rcases hblank with ((rfl | rfl) | rfl) | rfl <;> cases hc

theorem Reads.skip_eq {form : Form} (h : Reads K V d cs form r) : skip cs = cs := by
  obtain ⟨c, cs, rfl, hc⟩ := h.starts_head
  exact skip_of_starts hc cs

theorem Reads.skipped {form : Form} (h : Reads K V d cs form r) : Reads K V d (skip cs) form r := by
  rw [h.skip_eq]
  exact h

/-- From what is written for a value the value is read, whatever follows that may follow a value. -/
def IsReadBack (d : Nat) (v : Json) : Prop :=
  ∀ r, Closed r → Reads Spells Spells d (v.chars ++ r) (.value v) r

theorem quotedChars_append (s : String) (r : List Char) :
    quotedChars s ++ r = '"' :: (s.toList.flatMap escapeChar ++ '"' :: r) := by
  simp [quotedChars]

theorem closed_cons {c : Char} (hc : c = ',' ∨ c = ']' ∨ c = '}') (r : List Char) :
    Closed (c :: r) := by
  refine .of_skip_eq_cons (r := r) (c := c) (skip_of_not_isBlank ?_ r) hc
  rcases hc with rfl | rfl | rfl <;> rfl

theorem reads_itemsChars {vs : List Json} (hv : IsReadBack d v) (h : ∀ v ∈ vs, IsReadBack d v)
    (r : List Char) : Reads Spells Spells d (v.chars ++ (itemsChars vs ++ r)) (.items (v :: vs)) r := by
  induction vs generalizing v with
  | nil =>
    rw [itemsChars]
    exact .lastItem (hv _ (closed_cons (by simp) _)) rfl
  | cons v' vs ih =>
    obtain ⟨hv', hvs⟩ := List.forall_mem_cons.1 h
    rw [itemsChars, List.cons_append, List.cons_append, List.append_assoc]
    exact .item (hv _ (closed_cons (by simp) _)) rfl (ih hv' hvs).skipped

theorem reads_fieldsChars {k : String} {fs : List (String × Json)} (hv : IsReadBack d v)
    (h : ∀ e ∈ fs, IsReadBack d e.2) (r : List Char) :
    Reads Spells Spells d (quotedChars k ++ ':' :: (v.chars ++ (fieldsChars fs ++ r)))
      (.fields ((k, v) :: fs)) r := by
  rw [quotedChars_append]
  induction fs generalizing k v with
  | nil =>
    rw [fieldsChars]
    exact .lastField (spells_escaped k) rfl (hv _ (closed_cons (by simp) r)).skipped rfl
  | cons e fs ih =>
    obtain ⟨hv', hfs⟩ := List.forall_mem_cons.1 h
    obtain ⟨k', v'⟩ := e
    rw [fieldsChars]
    simp only [List.cons_append, List.append_assoc, quotedChars_append k']
    exact .field (spells_escaped k) rfl (hv _ (closed_cons (by simp) _)).skipped rfl
      (ih hv' hfs).skipped

theorem reads_chars (hfits : Fits d v) (he : Exact v) : IsReadBack d v := by
  induction hfits with
  | null => exact fun r _ => by rw [chars]; exact .nullWord
  | bool b => exact fun r _ => by cases b <;> rw [chars] <;> constructor
  | @int d n h =>
    intro r hr
    have hnumeric : ∀ c ∈ (toString n).toList, isNumeric c = true := by
      rw [toList_toString]
      refine List.forall_mem_append.2 ⟨?_, fun c hc => isNumeric_of_isDigit (isDigit_toDigits _ c hc)⟩
      split <;> simp [isNumeric]
    have hnumber (r : List Char) (hr : Stops goesOn r) := number_toString h hr
    obtain ⟨c, part, hpart⟩ : ∃ c part, (toString n).toList = c :: part := by
      refine List.exists_cons_of_ne_nil fun hnil => ?_
      have := hnumber [] .nil
      rw [hnil] at this; cases this
    rw [hpart] at hnumeric hnumber
    rw [chars, hpart]
    exact .number hnumeric hnumber hr
  | float x => cases he
  | str s =>
    intro r _
    rw [chars, quotedChars_append]
    exact .text (spells_escaped s)
  | @arr d vs h ih =>
    intro r hr
    cases he with
    | arr he =>
      cases vs with
      | nil =>
        rw [chars]
        exact .emptyArr rfl
      | cons v vs =>
        obtain ⟨hv, hvs⟩ := List.forall_mem_cons.1 fun v hv => ih v hv (he v hv)
        rw [chars, List.cons_append, List.cons_append, List.append_assoc]
        exact .arr (reads_itemsChars hv hvs r).skipped
  | @obj d fs hkeys h ih =>
    intro r hr
    cases he with
    | obj _ he =>
      cases fs with
      | nil =>
        rw [chars]
        exact .emptyObj rfl
      | cons e fs =>
        obtain ⟨hv, hfs⟩ := List.forall_mem_cons.1 fun e hmem => ih e hmem (he e hmem)
        have hentries := Assoc.ofEntries_of_nodup hkeys
        obtain ⟨k, v⟩ := e
        have hobj := (reads_fieldsChars (k := k) hv hfs r).skipped.obj
        rw [hentries] at hobj
        rw [chars]
        simp only [List.cons_append, List.append_assoc]
        exact hobj

/-- An exact value is read from what is written for it, if it can be read at all. -/
theorem parse_render (hfits : v.Fits maxDepth) (he : Exact v) : parse v.render = some v := by
  have hreads := reads_chars hfits he [] (.of_skip_eq_nil rfl)
  rw [List.append_nil] at hreads
  refine Reads.parse_eq (fun _ _ h => h) (fun _ _ h => h) (r := []) ?_ rfl
  rw [render, String.toList_ofList]
  exact hreads.skipped

theorem read_toString_of_le {n : Int} (hn : 10 ^ Text.maxDigits ≤ n.natAbs) :
    read (toString n) = .error .oversizedNumber := by
  have hnumber := number_toString_of_le hn
  obtain ⟨c, cs, hcs, hc⟩ : ∃ c cs, (toString n).toList = c :: cs ∧ starts c = true := by
    obtain ⟨c, ds, hds⟩ := exists_toDigits_eq_cons n.natAbs
    have hc : c.isDigit = true := isDigit_toDigits n.natAbs c (by rw [hds]; exact List.mem_cons_self)
    rw [toList_toString, hds]
    split
    · exact ⟨_, _, rfl, rfl⟩
    · exact ⟨_, _, rfl, by simp [starts, isNumeric_of_isDigit hc]⟩
  have hskip : skip (toString n).toList = (toString n).toList := by
    rw [hcs, skip_of_starts hc]
  have hvalue (f : Nat) : value maxDepth (f + 1) (toString n).toList = .error .oversizedNumber :=
    (value_eq_number f fun h => by rw [hnumber] at h; cases h).trans hnumber
  rw [read, hskip, hvalue]

end ChatFlow.Json
