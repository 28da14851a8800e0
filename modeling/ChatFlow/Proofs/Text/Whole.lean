import ChatFlow.Text.CodePoint
import Mathlib.Tactic.Common

/-!
# Texts that have an encoding

`IsWhole` says that no half of a surrogate pair stands alone in a text. Whether it does can be seen
character by character, but for a spare character behind its mark (`isWhole_cons_of_head`); characters
of ASCII take no part in it (`isWhole_of_isAscii`).
-/

namespace ChatFlow.Text

variable {c : Char} {cs m r : List Char}

/-- No half of a pair stands alone in a text. -/
def IsWhole (cs : List Char) : Prop := ((points cs).all fun n => !isHalf n) = true

theorem isWhole_nil : IsWhole [] := rfl

theorem isHalf_toNat (c : Char) : isHalf c.toNat = false := by
  have hvalid : c.toNat < 0xd800 ∨ 0xdfff < c.toNat ∧ c.toNat < 0x110000 := c.valid
  simp only [isHalf, Bool.and_eq_false_iff, decide_eq_false_iff_not]
  omega

/-- A character stands alone unless it is the mark of a spare character. -/
theorem letters_cons_of_head (h : c = mark → ∀ c' ∈ cs.head?, isSpare c' = false) :
    letters (c :: cs) = [c] :: letters cs := by
  cases cs with
  | nil => rfl
  | cons c' cs =>
    rw [letters, if_neg]
    rintro ⟨hmark, hspare⟩
    rw [h hmark c' rfl] at hspare
    cases hspare

theorem isWhole_cons_of_head (h : c = mark → ∀ c' ∈ cs.head?, isSpare c' = false) :
    IsWhole (c :: cs) ↔ (isSpare c = true → c = mark) ∧ IsWhole cs := by
  have hpoints : points (c :: cs) = pointOf [c] :: points cs := by
    rw [points, letters_cons_of_head h, List.map_cons]; rfl
  have hhalf : isHalf (pointOf [c]) = false ↔ (isSpare c = true → c = mark) := by
    by_cases hc : isSpare c = true ∧ c ≠ mark
    · have hpoint : pointOf [c] = c.toNat - 0x101800 := by simp [pointOf, hc]
      have hne : c.toNat ≠ 0x10f800 := fun hn => hc.2 (Char.toNat_inj.1 hn)
      have hspare := hc.1
      simp only [isSpare, Bool.and_eq_true, decide_eq_true_eq] at hspare
      have hlone : isHalf (c.toNat - 0x101800) = true := by
        simp only [isHalf, Bool.and_eq_true, decide_eq_true_eq]; omega
      simp [hpoint, hlone, hc]
    · have hpoint : pointOf [c] = c.toNat := by
        simp only [pointOf, Bool.and_eq_true, bne_iff_ne, if_neg hc]
      rw [hpoint]
      simp only [isHalf_toNat, true_iff]
      exact fun hspare => by_contra fun hne => hc ⟨hspare, hne⟩
  rw [IsWhole, hpoints, List.all_cons, Bool.and_eq_true, Bool.not_eq_true', hhalf]
  rfl

theorem isWhole_cons (hc : isSpare c = false) : IsWhole (c :: cs) ↔ IsWhole cs := by
  rw [isWhole_cons_of_head (by rintro rfl; cases hc), hc]
  simp

theorem isWhole_mark (hc : isSpare c = true) : IsWhole (mark :: c :: cs) ↔ IsWhole cs := by
  have hpoints : points (mark :: c :: cs) = c.toNat :: points cs := by
    rw [points, letters_mark c cs hc, List.map_cons]; rfl
  rw [IsWhole, hpoints, List.all_cons, isHalf_toNat, Bool.not_false, Bool.true_and]
  rfl

theorem isWhole_append (hm : ∀ c ∈ m, isSpare c = false) : IsWhole (m ++ r) ↔ IsWhole r := by
  induction m with
  | nil => rfl
  | cons c m ih =>
    obtain ⟨hc, hm⟩ := List.forall_mem_cons.1 hm
    rw [List.cons_append, isWhole_cons hc, ih hm]

theorem isSpare_of_lt (h : c.toNat < 128) : isSpare c = false := by
  simp [isSpare]; omega

/-! ### ASCII -/

/-- Characters of ASCII that are no control characters. -/
def IsAscii (cs : List Char) : Prop := ∀ c ∈ cs, 32 ≤ c.toNat ∧ c.toNat < 128

instance (cs : List Char) : Decidable (IsAscii cs) :=
  decidable_of_iff (cs.all fun c => 32 ≤ c.toNat && c.toNat < 128) (by simp [IsAscii])

theorem isAscii_cons {c : Char} {cs : List Char} :
    IsAscii (c :: cs) ↔ (32 ≤ c.toNat ∧ c.toNat < 128) ∧ IsAscii cs :=
  List.forall_mem_cons

theorem isAscii_append {cs ds : List Char} : IsAscii (cs ++ ds) ↔ IsAscii cs ∧ IsAscii ds :=
  List.forall_mem_append

theorem isAscii_toDigits (n : Nat) : IsAscii (Nat.toDigits 10 n) := by
  intro c hc
  have hdigit := Nat.isDigit_of_mem_toDigits (by decide) (by decide) hc
  have hzero : '0'.toNat = 48 := rfl
  have hnine : '9'.toNat = 57 := rfl
  rw [Char.isDigit_iff_toNat] at hdigit
  exact ⟨by omega, by omega⟩

theorem not_isSpare_of_isAscii (h : IsAscii cs) : ∀ c ∈ cs, isSpare c = false :=
  fun c hc => isSpare_of_lt (h c hc).2

theorem isWhole_of_isAscii (h : IsAscii cs) : IsWhole cs := by
  have hall := isWhole_append (r := []) (not_isSpare_of_isAscii h)
  rw [List.append_nil] at hall
  exact hall.2 isWhole_nil

end ChatFlow.Text
