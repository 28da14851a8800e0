import ChatFlow.Json.Reader

/-!
# Texts as they are written

A text of a JSON text stands between quotes, and some of its characters are written as escapes.
`Json.literals` finds what stands between the quotes, wherever it is; `Json.Spells` says which text a
literal is read as. `Reader.text_split` ties both to the reader.
-/

namespace ChatFlow.Json

open Reader

/-- What stands between two quotes, and whether it names a field. -/
structure Literal where
  body : List Char
  isKey : Bool
  deriving DecidableEq, Repr

/-- Whether a colon comes next. -/
def opensValue (cs : List Char) : Bool := (skip cs).head? == some ':'

/-- The literals of a text. If one is open, its characters so far are given, the last one first. -/
def literalsFrom : Option (List Char) → List Char → List Literal
  | _, [] => []
  | none, c :: cs => if c = '"' then literalsFrom (some []) cs else literalsFrom none cs
  | some b, '\\' :: c :: cs => literalsFrom (some (c :: '\\' :: b)) cs
  | some b, c :: cs =>
    if c = '"' then ⟨b.reverse, opensValue cs⟩ :: literalsFrom none cs
    else literalsFrom (some (c :: b)) cs

def literals (cs : List Char) : List Literal := literalsFrom none cs

/-- A literal is read as a text, whatever follows it. -/
def Spells (b : List Char) (s : String) : Prop := ∀ r, text (b ++ '"' :: r) = .ok (s, r)

variable {cs b b' r : List Char} {c : Char} {s s' : String} {ps : List Piece}

theorem literals_cons_of_ne (h : c ≠ '"') : literals (c :: cs) = literals cs := by
  simp [literals, literalsFrom, h]

theorem literals_append_of_ne (h : ∀ c ∈ b, c ≠ '"') : literals (b ++ cs) = literals cs := by
  induction b with
  | nil => rfl
  | cons c b ih =>
    obtain ⟨hc, hb⟩ := List.forall_mem_cons.1 h
    rw [List.cons_append, literals_cons_of_ne hc, ih hb]

theorem literals_skip (cs : List Char) : literals (skip cs) = literals cs := by
  induction cs with
  | nil => rfl
  | cons c cs ih =>
    by_cases hc : isBlank c = true
    · have hne : c ≠ '"' := by rintro rfl; cases hc
      rw [literals_cons_of_ne hne, ← ih, skip, List.dropWhile_cons_of_pos hc]; rfl
    · rw [skip, List.dropWhile_cons_of_neg hc]

theorem literalsFrom_escape (acc : List Char) :
    literalsFrom (some acc) ('\\' :: c :: cs) = literalsFrom (some (c :: '\\' :: acc)) cs := rfl

theorem literalsFrom_char (hquote : c ≠ '"') (hslash : c ≠ '\\') (acc : List Char) :
    literalsFrom (some acc) (c :: cs) = literalsFrom (some (c :: acc)) cs := by
  cases cs <;> simp [literalsFrom, hquote, hslash]

theorem literalsFrom_quote (acc : List Char) :
    literalsFrom (some acc) ('"' :: cs) = ⟨acc.reverse, opensValue cs⟩ :: literals cs := by
  cases cs <;> rfl

/-! ### Pieces -/

namespace Reader

theorem pieces?_unit {x y z w : Char} {n : Nat} (h : unit? x y z w = some n) :
    pieces? ('\\' :: 'u' :: x :: y :: z :: w :: cs) =
      (pieces? cs).map fun p => (.unit n :: p.1, p.2) := by
  simp [pieces?, h]

theorem pieces?_escape {e : Char} (h : escape? c = some e) :
    pieces? ('\\' :: c :: cs) = (pieces? cs).map fun p => (.char e :: p.1, p.2) := by
  rw [pieces?.eq_def]
  split
  · rename_i heq; cases heq
  · rename_i heq; cases heq
  · -- The letter that starts a code unit is no escape of its own.
    rename_i heq; cases heq; cases h
  · rename_i heq
    cases heq
    rw [h]; rfl
  · rename_i hno heq
    cases heq
    exact (hno _ _ rfl rfl).elim

theorem pieces?_char (hquote : c ≠ '"') (hslash : c ≠ '\\') (hlow : 32 ≤ c.toNat) :
    pieces? (c :: cs) = (pieces? cs).map fun p => (.char c :: p.1, p.2) := by
  rw [pieces?.eq_def]
  split
  · rename_i heq; cases heq
  · rename_i heq; cases heq; exact absurd rfl hquote
  · rename_i heq; cases heq; exact absurd rfl hslash
  · rename_i heq; cases heq; exact absurd rfl hslash
  · rename_i heq
    cases heq
    rw [if_neg (by simp [hslash]; omega)]

theorem ne_of_hexValue? {n : Nat} (h : Text.hexValue? c = some n) : c ≠ '"' ∧ c ≠ '\\' := by
  constructor <;> rintro rfl <;> cases h

theorem hexValue?_of_unit? {x y z w : Char} {n : Nat} (h : unit? x y z w = some n) :
    ∀ c ∈ [x, y, z, w], (Text.hexValue? c).isSome := by
  simp only [unit?, Option.bind_eq_bind, Option.bind_eq_some_iff] at h
  obtain ⟨a, hx, b, hy, c, hz, d, hw, -⟩ := h
  simp [hx, hy, hz, hw]

theorem literalsFrom_unit {x y z w : Char} {n : Nat} (h : unit? x y z w = some n)
    (acc : List Char) : literalsFrom (some acc) ('\\' :: 'u' :: x :: y :: z :: w :: cs) =
      literalsFrom (some (w :: z :: y :: x :: 'u' :: '\\' :: acc)) cs := by
  have hex (c : Char) (hc : c ∈ [x, y, z, w]) : c ≠ '"' ∧ c ≠ '\\' := by
    obtain ⟨m, hm⟩ := Option.isSome_iff_exists.1 (hexValue?_of_unit? h c hc)
    exact ne_of_hexValue? hm
  have hx := hex x (by simp)
  have hy := hex y (by simp)
  have hz := hex z (by simp)
  have hw := hex w (by simp)
  rw [literalsFrom_escape, literalsFrom_char hx.1 hx.2, literalsFrom_char hy.1 hy.2,
    literalsFrom_char hz.1 hz.2, literalsFrom_char hw.1 hw.2]

/-- A literal ends with the first quote that is no escape, and is read no further. -/
theorem pieces?_split (h : pieces? cs = some (ps, r)) :
    ∃ b, cs = b ++ '"' :: r ∧ (∀ r', pieces? (b ++ '"' :: r') = some (ps, r')) ∧
      ∀ acc, literalsFrom (some acc) cs = ⟨acc.reverse ++ b, opensValue r⟩ :: literals r := by
  fun_induction pieces? cs generalizing ps r with
  | case1 => cases h
  | case2 r₁ =>
    cases h
    exact ⟨[], rfl, fun _ => rfl, fun acc => by rw [literalsFrom_quote, List.append_nil]⟩
  | case3 x y z w r₁ ih =>
    obtain ⟨n, hn, h⟩ := Option.bind_eq_some_iff.1 h
    obtain ⟨⟨ps₁, r₂⟩, hps, h⟩ := Option.map_eq_some_iff.1 h
    cases h
    obtain ⟨b, rfl, hread, hlits⟩ := ih hps
    refine ⟨'\\' :: 'u' :: x :: y :: z :: w :: b, rfl, fun r' => ?_, fun acc => ?_⟩
    · simp only [List.cons_append, pieces?_unit hn, hread]
      rfl
    · rw [literalsFrom_unit hn, hlits]
      simp
  | case4 c r₁ hno ih =>
    obtain ⟨e, he, h⟩ := Option.bind_eq_some_iff.1 h
    obtain ⟨⟨ps₁, r₂⟩, hps, h⟩ := Option.map_eq_some_iff.1 h
    cases h
    obtain ⟨b, rfl, hread, hlits⟩ := ih hps
    refine ⟨'\\' :: c :: b, rfl, fun r' => ?_, fun acc => ?_⟩
    · simp only [List.cons_append, pieces?_escape he, hread]
      rfl
    · rw [literalsFrom_escape, hlits]
      simp
  | case5 => cases h
  | case6 c r₁ hquote _ _ hplain ih =>
    obtain ⟨⟨ps₁, r₂⟩, hps, h⟩ := Option.map_eq_some_iff.1 h
    cases h
    obtain ⟨b, rfl, hread, hlits⟩ := ih hps
    simp only [Bool.or_eq_true, decide_eq_true_eq, beq_iff_eq, not_or, Nat.not_lt] at hplain
    refine ⟨c :: b, rfl, fun r' => ?_, fun acc => ?_⟩
    · simp only [List.cons_append, pieces?_char hquote hplain.2 hplain.1, hread]
      rfl
    · rw [literalsFrom_char hquote hplain.2, hlits]
      simp

theorem text_split (h : text cs = .ok (s, r)) : ∃ b, cs = b ++ '"' :: r ∧ Spells b s ∧
    ∀ acc, literalsFrom (some acc) cs = ⟨acc.reverse ++ b, opensValue r⟩ :: literals r := by
  unfold text at h
  split at h
  · rename_i ps r₁ hps
    cases h
    obtain ⟨b, hcs, hread, hlits⟩ := pieces?_split hps
    exact ⟨b, hcs, fun r' => by rw [text, hread r'], hlits⟩
  · cases h

end Reader

theorem exists_eq_of_mem_literalsFrom {l : Literal} {o : Option (List Char)}
    (h : l ∈ literalsFrom o cs) (pre : List Char) :
    ∃ a r, pre ++ (o.elim [] fun b => '"' :: b.reverse) ++ cs = a ++ '"' :: (l.body ++ '"' :: r) := by
  fun_induction literalsFrom o cs generalizing pre with
  | case1 => cases h
  | case2 cs ih => simpa using ih h pre
  | case3 c cs hc ih => simpa using ih h (pre ++ [c])
  | case4 b c cs ih => simpa using ih h pre
  | case5 b cs _ ih =>
    rcases List.mem_cons.1 h with rfl | h
    · exact ⟨pre, cs, by simp⟩
    · simpa using ih h (pre ++ '"' :: (b.reverse ++ ['"']))
  | case6 b c cs _ hc ih => simpa using ih h pre

theorem exists_eq_of_mem_literals {l : Literal} (h : l ∈ literals cs) :
    ∃ a r, cs = a ++ '"' :: (l.body ++ '"' :: r) :=
  exists_eq_of_mem_literalsFrom h []

theorem literals_of_spells (h : Spells b s) (r : List Char) :
    literals ('"' :: (b ++ '"' :: r)) = ⟨b, opensValue r⟩ :: literals r := by
  obtain ⟨b', hb, -, hlits⟩ := Reader.text_split (h r)
  have hbody : b = b' := by simpa using hb
  have hopen : literals ('"' :: (b ++ '"' :: r)) = literalsFrom (some []) (b ++ '"' :: r) := rfl
  rw [hopen, hlits, hbody]
  rfl

end ChatFlow.Json
