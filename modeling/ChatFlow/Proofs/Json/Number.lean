import ChatFlow.Json.Reader
import Mathlib.Data.List.TakeDrop

/-!
# Where a number ends

Reading a number takes its characters and leaves the others alone: if what follows cannot go on with
a number, something else that cannot may follow instead (`number_split`). The parts of a number are
treated first, in their order: whole part, places, power.
-/

namespace ChatFlow.Json.Reader

variable {p q : Char → Bool} {cs ds fs r r' : List Char}

/-- A text does not start with a character of a kind. -/
def Stops (p : Char → Bool) (cs : List Char) : Prop := ∀ c ∈ cs.head?, p c = false

theorem Stops.nil {p : Char → Bool} : Stops p [] := nofun

/-- A character that a number may go on with. -/
def goesOn (c : Char) : Bool := c.isDigit || c == '.' || c == 'e' || c == 'E'

/-- A character of a number, or of the words that stand for numbers. -/
def isNumeric (c : Char) : Bool := c.isAlphanum || c == '.' || c == '+' || c == '-'

theorem Stops.mono (h : Stops q cs) (hpq : ∀ c, p c = true → q c = true) : Stops p cs := by
  intro c hc
  have hq := h c hc
  by_contra hp
  rw [hpq c (eq_true_of_ne_false hp)] at hq
  cases hq

theorem Stops.digit (h : Stops goesOn cs) : Stops Char.isDigit cs :=
  h.mono fun c hc => by simp [goesOn, hc]

theorem isNumeric_of_isDigit {c : Char} (h : c.isDigit = true) : isNumeric c = true := by
  simp [isNumeric, Char.isAlphanum, h]

/-! ### Digits -/

theorem digits_eq (h : digits cs = (ds, r)) :
    cs = ds ++ r ∧ (∀ c ∈ ds, c.isDigit = true) ∧ Stops Char.isDigit r := by
  rw [digits, List.span_eq_takeWhile_dropWhile, Prod.mk.injEq] at h
  obtain ⟨rfl, rfl⟩ := h
  refine ⟨List.takeWhile_append_dropWhile.symm, List.all_eq_true.1 List.all_takeWhile, ?_⟩
  intro c hc
  have := List.head?_dropWhile_not Char.isDigit cs
  rw [Option.mem_def.1 hc] at this
  simpa using this

theorem digits_append (hds : ∀ c ∈ ds, c.isDigit = true) (hr : Stops Char.isDigit r) :
    digits (ds ++ r) = (ds, r) := by
  have hstop : r.takeWhile Char.isDigit = [] ∧ r.dropWhile Char.isDigit = r := by
    cases r with
    | nil => exact ⟨rfl, rfl⟩
    | cons c cs =>
      have hc : c.isDigit = false := hr c rfl
      simp [hc]
  rw [digits, List.span_eq_takeWhile_dropWhile, List.takeWhile_append_of_pos hds,
    List.dropWhile_append_of_pos hds, hstop.1, hstop.2, List.append_nil]

/-! ### The parts of a number -/

/-- Reading a part takes some characters, and would take them as well before anything else that does
not start with a digit. -/
structure Takes {α : Type} (read : List Char → Option (α × List Char)) (a : α)
    (part : List Char) : Prop where
  numeric : ∀ c ∈ part, isNumeric c = true
  reads : ∀ r, Stops Char.isDigit r → read (part ++ r) = some (a, r)

theorem whole?_split (h : whole? cs = some (ds, r)) :
    cs = ds ++ r ∧ (∃ d ∈ ds.head?, d.isDigit = true) ∧ Takes whole? ds ds := by
  unfold whole? at h
  split at h
  · simp only [Option.some.injEq, Prod.mk.injEq] at h
    obtain ⟨rfl, rfl⟩ := h
    exact ⟨rfl, ⟨'0', rfl, rfl⟩, List.all_eq_true.1 (by decide), fun _ _ => rfl⟩
  · rename_i hzero
    dsimp only at h
    split at h
    · cases h
    · rename_i hne
      simp only [Option.some.injEq, Prod.mk.injEq] at h
      obtain ⟨hcs, hds, -⟩ := digits_eq (Prod.ext h.1 h.2)
      rw [h.1] at hne
      cases ds with
      | nil => simp at hne
      | cons d ds =>
        have hd : d ≠ '0' := fun hd => hzero (ds ++ r) (by rw [hcs, hd]; rfl)
        refine ⟨hcs, ⟨d, rfl, hds d List.mem_cons_self⟩,
          fun c hc => isNumeric_of_isDigit (hds c hc), fun r' hr' => ?_⟩
        have hdigits := digits_append hds hr'
        unfold whole?
        split
        · rename_i heq
          cases heq
          exact absurd rfl hd
        · rw [hdigits]; rfl

theorem places?_split (h : places? cs = some (fs, r)) :
    cs = '.' :: fs ++ r ∧ fs ≠ [] ∧ Takes places? fs ('.' :: fs) := by
  unfold places? at h
  split at h
  · rename_i r₁
    dsimp only at h
    split at h
    · cases h
    · rename_i hne
      simp only [Option.some.injEq, Prod.mk.injEq] at h
      obtain ⟨hcs, hds, -⟩ := digits_eq (Prod.ext h.1 h.2)
      rw [h.1] at hne
      refine ⟨by rw [hcs]; rfl, by simpa using hne, fun c hc => ?_, fun r' hr' => ?_⟩
      · rcases List.mem_cons.1 hc with rfl | hc
        · rfl
        · exact isNumeric_of_isDigit (hds c hc)
      · simp [places?, digits_append hds hr', hne]
  · cases h

theorem places?_eq_none (h : Stops goesOn r) : places? r = none := by
  unfold places?
  split
  · rename_i cs
    exact absurd (h '.' rfl) (by decide)
  · rfl

theorem power?_eq_none (h : Stops goesOn r) : power? r = none := by
  cases r with
  | nil => rfl
  | cons c cs =>
    have hc := h c rfl
    simp only [goesOn, Bool.or_eq_false_iff] at hc
    simp [power?, hc.1.2, hc.2]

/-- The digits of a power. -/
def exponent? (negative : Bool) (cs : List Char) : Option (Int × List Char) :=
  let (ds, r) := digits cs
  if ds.isEmpty then none
  else some (if negative then -(digitsValue ds : Int) else digitsValue ds, r)

theorem exponent?_split {negative : Bool} {e : Int} (h : exponent? negative cs = some (e, r)) :
    ∃ ds, cs = ds ++ r ∧ ds ≠ [] ∧ (∀ c ∈ ds, c.isDigit = true) ∧
      ∀ r', Stops Char.isDigit r' → exponent? negative (ds ++ r') = some (e, r') := by
  unfold exponent? at h
  dsimp only at h
  split at h
  · cases h
  · rename_i hne
    simp only [Option.some.injEq, Prod.mk.injEq] at h
    have hdigits : digits cs = ((digits cs).1, r) := Prod.ext rfl h.2
    obtain ⟨hcs, hds, -⟩ := digits_eq hdigits
    refine ⟨_, hcs, by simpa using hne, hds, fun r' hr' => ?_⟩
    simp only [exponent?, digits_append hds hr', hne]
    exact congrArg (fun e => some (e, r')) h.1

/-- What follows the letter of a power: a sign or none, and digits. -/
def signedExponent? (cs : List Char) : Option (Int × List Char) :=
  match cs with
  | '-' :: r => exponent? true r
  | '+' :: r => exponent? false r
  | r => exponent? false r

theorem signedExponent?_of_ne (hminus : ∀ r, cs ≠ '-' :: r) (hplus : ∀ r, cs ≠ '+' :: r) :
    signedExponent? cs = exponent? false cs := by
  unfold signedExponent?
  split
  · exact absurd rfl (hminus _)
  · exact absurd rfl (hplus _)
  · rfl

theorem power?_cons {c : Char} (hc : (c == 'e' || c == 'E') = true) (cs : List Char) :
    power? (c :: cs) = signedExponent? cs := by
  simp only [power?, hc, if_true]
  split
  · rfl
  · rfl
  · rename_i hminus hplus
    rw [signedExponent?_of_ne hminus hplus]
    rfl

theorem power?_split {e : Int} (h : power? cs = some (e, r)) :
    ∃ part, cs = part ++ r ∧ (∃ c ∈ part.head?, c = 'e' ∨ c = 'E') ∧ Takes power? e part := by
  cases cs with
  | nil => cases h
  | cons c cs =>
    by_cases hc : (c == 'e' || c == 'E') = true
    · have hstart : c = 'e' ∨ c = 'E' := by simpa using hc
      have hnumeric : isNumeric c = true := by rcases hstart with rfl | rfl <;> rfl
      rw [power?_cons hc] at h
      unfold signedExponent? at h
      split at h
      · obtain ⟨ds, rfl, -, hds, hreads⟩ := exponent?_split h
        refine ⟨c :: '-' :: ds, rfl, ⟨c, rfl, hstart⟩, ?_, fun r' hr' => ?_⟩
        · exact List.forall_mem_cons.2 ⟨hnumeric, List.forall_mem_cons.2
            ⟨rfl, fun d hd => isNumeric_of_isDigit (hds d hd)⟩⟩
        · exact (power?_cons hc _).trans (hreads r' hr')
      · obtain ⟨ds, rfl, -, hds, hreads⟩ := exponent?_split h
        refine ⟨c :: '+' :: ds, rfl, ⟨c, rfl, hstart⟩, ?_, fun r' hr' => ?_⟩
        · exact List.forall_mem_cons.2 ⟨hnumeric, List.forall_mem_cons.2
            ⟨rfl, fun d hd => isNumeric_of_isDigit (hds d hd)⟩⟩
        · exact (power?_cons hc _).trans (hreads r' hr')
      · obtain ⟨ds, rfl, hne, hds, hreads⟩ := exponent?_split h
        obtain ⟨d, ds, rfl⟩ := List.exists_cons_of_ne_nil hne
        have hd := hds d List.mem_cons_self
        refine ⟨c :: d :: ds, rfl, ⟨c, rfl, hstart⟩, ?_, fun r' hr' => ?_⟩
        · exact List.forall_mem_cons.2 ⟨hnumeric, fun d' hd' => isNumeric_of_isDigit (hds d' hd')⟩
        · have hsign : signedExponent? (d :: ds ++ r') = exponent? false (d :: ds ++ r') :=
            signedExponent?_of_ne (fun r h => by cases h; exact absurd hd (by decide))
              (fun r h => by cases h; exact absurd hd (by decide))
          exact (power?_cons hc _).trans (hsign.trans (hreads r' hr'))
    · simp [power?, hc] at h

/-! ### Numbers -/

theorem stops_of_power {part : List Char} (hp : ∃ c ∈ part.head?, c = 'e' ∨ c = 'E') :
    Stops Char.isDigit (part ++ r) ∧ places? (part ++ r) = none := by
  obtain ⟨c, hc, hstart⟩ := hp
  obtain ⟨part, rfl⟩ : ∃ part', part = c :: part' := by
    cases part with
    | nil => cases hc
    | cons d part => cases hc; exact ⟨part, rfl⟩
  refine ⟨fun d hd => ?_, ?_⟩
  · cases hd
    rcases hstart with rfl | rfl <;> rfl
  · rcases hstart with rfl | rfl <;> rfl

/-- A number without its sign takes some characters, whatever follows them. -/
theorem magnitude_split {negative : Bool} {v : Json} (h : magnitude negative cs = .ok (v, r))
    (hr : Stops goesOn r) : ∃ d part, cs = d :: part ++ r ∧ d.isDigit = true ∧
      (∀ c ∈ d :: part, isNumeric c = true) ∧
      ∀ r', Stops goesOn r' → magnitude negative (d :: part ++ r') = .ok (v, r') := by
  cases hw : whole? cs with
  | none => simp [magnitude, hw] at h
  | some w =>
    obtain ⟨ds, r₁⟩ := w
    obtain ⟨rfl, ⟨d, hd, hdigit⟩, hds⟩ := whole?_split hw
    obtain ⟨ds, rfl⟩ : ∃ ds', ds = d :: ds' := by
      cases ds with
      | nil => cases hd
      | cons d' ds => cases hd; exact ⟨ds, rfl⟩
    cases hp : places? r₁ with
    | none =>
      cases he : power? r₁ with
      | none =>
        simp only [magnitude, hw, hp, he, Option.getD_none] at h
        split at h
        · cases h
        · rename_i hlen
          simp only [Except.ok.injEq, Prod.mk.injEq] at h
          obtain ⟨hv, rfl⟩ := h
          refine ⟨d, ds, rfl, hdigit, hds.numeric, fun r' hr' => ?_⟩
          simp only [magnitude, hds.reads r' hr'.digit, places?_eq_none hr', power?_eq_none hr',
            Option.getD_none, if_neg hlen, hv]
      | some e =>
        obtain ⟨e, r₂⟩ := e
        obtain ⟨pw, rfl, hstart, hpw⟩ := power?_split he
        simp only [magnitude, hw, hp, he, Option.getD_none, Option.getD_some, Except.ok.injEq,
          Prod.mk.injEq] at h
        obtain ⟨hv, rfl⟩ := h
        refine ⟨d, ds ++ pw, by simp, hdigit, ?_, fun r' hr' => ?_⟩
        · rw [← List.cons_append]
          exact List.forall_mem_append.2 ⟨hds.numeric, hpw.numeric⟩
        · obtain ⟨hstop, hplaces⟩ := stops_of_power (r := r') hstart
          rw [← List.cons_append, List.append_assoc]
          simp only [magnitude, hds.reads _ hstop, hplaces, hpw.reads r' hr'.digit,
            Option.getD_none, Option.getD_some, hv]
    | some f =>
      obtain ⟨fs, r₂⟩ := f
      obtain ⟨rfl, hfs, hpl⟩ := places?_split hp
      obtain ⟨f, fs, rfl⟩ := List.exists_cons_of_ne_nil hfs
      have hdot (r : List Char) : Stops Char.isDigit ('.' :: f :: fs ++ r) := fun c hc => by
        cases hc; rfl
      cases he : power? r₂ with
      | none =>
        simp only [magnitude, hw, hp, he, Option.getD_none, Option.getD_some, Except.ok.injEq,
          Prod.mk.injEq] at h
        obtain ⟨hv, rfl⟩ := h
        refine ⟨d, ds ++ '.' :: f :: fs, by simp, hdigit, ?_, fun r' hr' => ?_⟩
        · rw [← List.cons_append]
          exact List.forall_mem_append.2 ⟨hds.numeric, hpl.numeric⟩
        · rw [← List.cons_append, List.append_assoc]
          simp only [magnitude, hds.reads _ (hdot r'), hpl.reads r' hr'.digit, power?_eq_none hr',
            Option.getD_none, Option.getD_some, hv]
      | some e =>
        obtain ⟨e, r₃⟩ := e
        obtain ⟨pw, rfl, hstart, hpw⟩ := power?_split he
        simp only [magnitude, hw, hp, he, Option.getD_some, Except.ok.injEq, Prod.mk.injEq] at h
        obtain ⟨hv, rfl⟩ := h
        refine ⟨d, ds ++ ('.' :: f :: fs ++ pw), by simp, hdigit, ?_, fun r' hr' => ?_⟩
        · rw [← List.cons_append]
          exact List.forall_mem_append.2
            ⟨hds.numeric, List.forall_mem_append.2 ⟨hpl.numeric, hpw.numeric⟩⟩
        · obtain ⟨hstop, -⟩ := stops_of_power (r := r') hstart
          rw [← List.cons_append, List.append_assoc, List.append_assoc]
          simp only [magnitude, hds.reads _ (hdot (pw ++ r')), hpl.reads _ hstop,
            hpw.reads r' hr'.digit, Option.getD_some, hv]

theorem number_of_isDigit {d : Char} (hd : d.isDigit = true) (cs : List Char) :
    number (d :: cs) = magnitude false (d :: cs) := by
  unfold number
  split
  · rename_i heq; cases heq; exact absurd hd (by decide)
  · rename_i heq; cases heq; exact absurd hd (by decide)
  · rename_i heq; cases heq; exact absurd hd (by decide)
  · rename_i heq; cases heq; exact absurd hd (by decide)
  · rfl

theorem number_minus {d : Char} (hd : d.isDigit = true) (cs : List Char) :
    number ('-' :: d :: cs) = magnitude true (d :: cs) := by
  unfold number
  split
  · rename_i heq; cases heq
  · rename_i heq; cases heq
  · rename_i heq; cases heq; exact absurd hd (by decide)
  · rename_i heq; cases heq; rfl
  · rename_i hminus; exact absurd rfl (hminus _)

theorem number_split {v : Json} (h : number cs = .ok (v, r)) (hr : Stops goesOn r) :
    ∃ c part, cs = c :: part ++ r ∧ (∀ c' ∈ c :: part, isNumeric c' = true) ∧
      ∀ r', Stops goesOn r' → number (c :: part ++ r') = .ok (v, r') := by
  unfold number at h
  split at h
  · simp only [Except.ok.injEq, Prod.mk.injEq] at h
    obtain ⟨rfl, rfl⟩ := h
    exact ⟨'N', ['a', 'N'], rfl, List.all_eq_true.1 (by decide), fun _ _ => rfl⟩
  · simp only [Except.ok.injEq, Prod.mk.injEq] at h
    obtain ⟨rfl, rfl⟩ := h
    exact ⟨'I', "nfinity".toList, rfl, List.all_eq_true.1 (by decide), fun _ _ => rfl⟩
  · simp only [Except.ok.injEq, Prod.mk.injEq] at h
    obtain ⟨rfl, rfl⟩ := h
    exact ⟨'-', "Infinity".toList, rfl, List.all_eq_true.1 (by decide), fun _ _ => rfl⟩
  · obtain ⟨d, part, rfl, hd, hnumeric, hreads⟩ := magnitude_split h hr
    exact ⟨'-', d :: part, rfl, List.forall_mem_cons.2 ⟨rfl, hnumeric⟩, fun r' hr' =>
      (number_minus hd (part ++ r')).trans (hreads r' hr')⟩
  · obtain ⟨d, part, rfl, hd, hnumeric, hreads⟩ := magnitude_split h hr
    exact ⟨d, part, rfl, hnumeric, fun r' hr' =>
      (number_of_isDigit hd (part ++ r')).trans (hreads r' hr')⟩

end ChatFlow.Json.Reader
