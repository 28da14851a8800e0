import ChatFlow.Decimal.Binary64
import Mathlib.Data.Int.Log
import Mathlib.Data.Rat.Floor
import Mathlib.Tactic.FieldSimp
import Mathlib.Tactic.Linarith
import Mathlib.Tactic.NormNum
import Mathlib.Tactic.Ring

/-!
# Rounding to doubles

A positive number is rounded to an integer number of units, the unit being the power of two at which
it has fifty-three binary digits, or the least one there is (`exists_rounded_eq`). So rounding is
monotone (`rounded_mono`), and leaves an integer alone that fits fifty-three digits
(`rounded_intCast`).
-/

namespace ChatFlow.Binary64

/-! ### Nearest integers -/

/-- `k` is the integer next to `x`, the even one of two that are equally near. -/
structure IsNearest (x : ℚ) (k : ℕ) : Prop where
  lower : (k : ℚ) - 1 / 2 ≤ x
  upper : x ≤ k + 1 / 2
  even : x = k - 1 / 2 ∨ x = k + 1 / 2 → k % 2 = 0

theorem IsNearest.mono {x y : ℚ} {j k : ℕ} (hj : IsNearest x j) (hk : IsNearest y k) (h : x ≤ y) :
    j ≤ k := by
  by_contra hlt
  have hstep : (k : ℚ) + 1 ≤ j := by exact_mod_cast Nat.lt_of_not_le hlt
  have hj₁ := hj.lower
  have hk₁ := hk.upper
  -- Only a tie is left, and of two neighbours not both are even.
  have hjk : (j : ℚ) = (k + 1 : ℕ) := by push_cast; linarith
  have hjk' : j = k + 1 := by exact_mod_cast hjk
  push_cast at hjk
  have hjeven := hj.even (Or.inl (by linarith))
  have hkeven := hk.even (Or.inr (by linarith))
  omega

theorem isNearest_natCast (n : ℕ) : IsNearest n n where
  lower := by linarith
  upper := by linarith
  even h := by rcases h with h | h <;> linarith

theorem isNearest_roundDiv (num : ℕ) {den : ℕ} (hden : 0 < den) :
    IsNearest ((num : ℚ) / den) (roundDiv num den) := by
  have hden' : (0 : ℚ) < den := by exact_mod_cast hden
  have hdiv : (num : ℚ) / den = (num / den : ℕ) + ((num % den : ℕ) : ℚ) / den := by
    have h : (num : ℚ) = den * (num / den : ℕ) + (num % den : ℕ) := by
      exact_mod_cast (Nat.div_add_mod num den).symm
    field_simp
    exact h
  have hnonneg : 0 ≤ ((num % den : ℕ) : ℚ) / den := by positivity
  have hlt : ((num % den : ℕ) : ℚ) / den < 1 := by
    rw [div_lt_one hden']
    exact_mod_cast Nat.mod_lt num hden
  have hhalf : ((num % den : ℕ) : ℚ) / den < 1 / 2 ↔ 2 * (num % den) < den := by
    rw [div_lt_div_iff₀ hden' two_pos, one_mul, mul_comm]
    exact_mod_cast Iff.rfl
  have htie : ((num % den : ℕ) : ℚ) / den = 1 / 2 ↔ 2 * (num % den) = den := by
    rw [div_eq_div_iff hden'.ne' two_ne_zero, one_mul, mul_comm]
    exact_mod_cast Iff.rfl
  rw [hdiv]
  unfold roundDiv
  simp only [Bool.or_eq_true, decide_eq_true_eq, Bool.and_eq_true, beq_iff_eq, ← hhalf, ← htie]
  clear hdiv hhalf htie
  generalize ((num % den : ℕ) : ℚ) / den = part at *
  generalize num / den = whole
  split_ifs with hdown
  · refine ⟨by linarith, ?_, fun h => ?_⟩
    · rcases hdown with h | h <;> linarith [h]
    · rcases hdown with hsmall | heven
      · rcases h with h | h <;> linarith
      · exact heven.2
  · have hup : 1 / 2 ≤ part := not_lt.1 fun h => hdown (Or.inl h)
    have hsucc : ((whole + 1 : ℕ) : ℚ) = whole + 1 := Nat.cast_succ whole
    refine ⟨by linarith, by linarith, fun h => ?_⟩
    rcases h with h | h
    · have hpart : part = 1 / 2 := by linarith
      have hodd : ¬ whole % 2 = 0 := fun h => hdown (Or.inr ⟨hpart, h⟩)
      omega
    · exfalso; linarith

/-! ### Units -/

theorem scale_spec (num : ℕ) {den : ℕ} (hden : 0 < den) (q : ℤ) :
    0 < (scale num den q).2 ∧
      ((scale num den q).1 : ℚ) / (scale num den q).2 = num / den * 2 ^ (-q) := by
  have hden' : (den : ℚ) ≠ 0 := by exact_mod_cast hden.ne'
  cases q with
  | ofNat n =>
    refine ⟨Nat.mul_pos hden (Nat.two_pow_pos n), ?_⟩
    simp only [scale, Nat.pow_eq, Nat.cast_mul, Nat.cast_pow, Nat.cast_ofNat, Int.ofNat_eq_natCast,
      zpow_neg, zpow_natCast]
    field_simp
  | negSucc n =>
    refine ⟨hden, ?_⟩
    simp only [scale, Nat.pow_eq, Nat.cast_mul, Nat.cast_pow, Nat.cast_ofNat, Int.neg_negSucc,
      zpow_natCast]
    field_simp

theorem isNearest_scaled (num : ℕ) {den : ℕ} (hden : 0 < den) (q : ℤ) :
    IsNearest ((num : ℚ) / den * 2 ^ (-q)) (scaled num den q) := by
  obtain ⟨hpos, heq⟩ := scale_spec num hden q
  rw [← heq]
  exact isNearest_roundDiv _ hpos

theorem value_eq (m : ℕ) (q : ℤ) : value m q = m * 2 ^ q := by
  cases q with
  | ofNat n => simp [value]
  | negSucc n =>
    rw [value, Rat.mkRat_eq_div, zpow_negSucc, Nat.pow_eq]
    push_cast
    rfl

theorem log2_bounds {n : ℕ} (hn : 0 < n) :
    (2 : ℚ) ^ (n.log2 : ℤ) ≤ n ∧ (n : ℚ) < 2 ^ ((n.log2 : ℤ) + 1) := by
  constructor
  · rw [zpow_natCast]
    exact_mod_cast Nat.log2_self_le hn.ne'
  · rw [← Int.natCast_succ, zpow_natCast]
    exact_mod_cast Nat.lt_log2_self

/-- The digits of the two parts of a fraction leave two values for its logarithm. -/
theorem log2_div_bounds {num den : ℕ} (hnum : 0 < num) (hden : 0 < den) :
    (2 : ℚ) ^ ((num.log2 : ℤ) - den.log2 - 1) ≤ num / den ∧
      (num : ℚ) / den < 2 ^ ((num.log2 : ℤ) - den.log2 + 1) := by
  have hden' : (0 : ℚ) < den := by exact_mod_cast hden
  have two (k : ℤ) : (0 : ℚ) ≤ 2 ^ k := (zpow_pos two_pos k).le
  obtain ⟨hnlow, hnhigh⟩ := log2_bounds hnum
  obtain ⟨hdlow, hdhigh⟩ := log2_bounds hden
  constructor
  · rw [le_div_iff₀ hden']
    calc (2 : ℚ) ^ ((num.log2 : ℤ) - den.log2 - 1) * den
      _ ≤ 2 ^ ((num.log2 : ℤ) - den.log2 - 1) * 2 ^ ((den.log2 : ℤ) + 1) :=
        mul_le_mul_of_nonneg_left hdhigh.le (two _)
      _ = 2 ^ (num.log2 : ℤ) := by rw [← zpow_add₀ two_ne_zero]; congr 1; ring
      _ ≤ num := hnlow
  · rw [div_lt_iff₀ hden']
    calc (num : ℚ)
      _ < 2 ^ ((num.log2 : ℤ) + 1) := hnhigh
      _ = 2 ^ ((num.log2 : ℤ) - den.log2 + 1) * 2 ^ (den.log2 : ℤ) := by
        rw [← zpow_add₀ two_ne_zero]; congr 1; ring
      _ ≤ 2 ^ ((num.log2 : ℤ) - den.log2 + 1) * den := mul_le_mul_of_nonneg_left hdlow (two _)

theorem log_eq {x : ℚ} {k : ℤ} (hlow : 2 ^ k ≤ x) (hhigh : x < 2 ^ (k + 1)) : Int.log 2 x = k := by
  have hpos : 0 < x := (zpow_pos two_pos k).trans_le hlow
  have hle : k ≤ Int.log 2 x := (Int.zpow_le_iff_le_log one_lt_two hpos).1 (by exact_mod_cast hlow)
  have hlt : Int.log 2 x < k + 1 :=
    (Int.lt_zpow_iff_log_lt one_lt_two hpos).1 (by exact_mod_cast hhigh)
  omega

/-- The exponent of the unit that a number is rounded to. -/
def unitExponent (x : ℚ) : ℤ := max (-1074) (Int.log 2 x - 52)

theorem exponentOf_eq {num den : ℕ} (hnum : 0 < num) (hden : 0 < den) :
    exponentOf num den = unitExponent ((num : ℚ) / den) := by
  obtain ⟨hlow, hhigh⟩ := log2_div_bounds hnum hden
  have hguess (q : ℤ) : (scale num den q).1 / (scale num den q).2 < Nat.pow 2 52 ↔
      (num : ℚ) / den < 2 ^ (q + 52) := by
    obtain ⟨hd, heq⟩ := scale_spec num hden q
    have hd' : (0 : ℚ) < (scale num den q).2 := by exact_mod_cast hd
    rw [Nat.div_lt_iff_lt_mul hd, ← @Nat.cast_lt ℚ, Nat.cast_mul, ← div_lt_iff₀ hd', heq,
      zpow_neg, ← div_eq_mul_inv, div_lt_iff₀ (zpow_pos two_pos q), zpow_add₀ two_ne_zero, mul_comm]
    norm_num
  generalize (num : ℚ) / den = x at *
  simp only [exponentOf, unitExponent, hguess]
  rw [show (num.log2 : ℤ) - den.log2 - 52 + 52 = num.log2 - den.log2 by ring]
  split_ifs with hsmall
  · rw [log_eq hlow (by rwa [sub_add_cancel])]
    congr 1; ring
  · rw [log_eq (not_lt.1 hsmall) hhigh]

theorem unitExponent_mono {x y : ℚ} (hx : 0 < x) (h : x ≤ y) : unitExponent x ≤ unitExponent y :=
  max_le_max le_rfl (sub_le_sub_right (Int.log_mono_right hx h) 52)

/-- In its unit a number has fifty-three digits at most. -/
theorem mul_unit_le {x : ℚ} : x * 2 ^ (-unitExponent x) ≤ (2 ^ 53 : ℕ) := by
  have hlt : x < 2 ^ (Int.log 2 x + 1) := by exact_mod_cast Int.lt_zpow_succ_log_self one_lt_two x
  have hle : (2 : ℚ) ^ (Int.log 2 x + 1) ≤ 2 ^ (53 + unitExponent x) :=
    zpow_le_zpow_right₀ one_le_two (by unfold unitExponent; omega)
  have hsplit : (2 : ℚ) ^ (53 + unitExponent x) = 2 ^ 53 * 2 ^ unitExponent x :=
    zpow_add₀ two_ne_zero 53 (unitExponent x)
  rw [zpow_neg, ← div_eq_mul_inv, div_le_iff₀ (zpow_pos two_pos _)]
  push_cast
  linarith

theorem le_mul_unit {x : ℚ} (hx : 0 < x) (hunit : -1074 < unitExponent x) :
    (2 ^ 52 : ℕ) ≤ x * 2 ^ (-unitExponent x) := by
  have hle : (2 : ℚ) ^ Int.log 2 x ≤ x := by exact_mod_cast Int.zpow_log_le_self one_lt_two hx
  have heq : Int.log 2 x = 52 + unitExponent x := by unfold unitExponent at *; omega
  rw [heq, zpow_add₀ two_ne_zero] at hle
  rw [zpow_neg, ← div_eq_mul_inv, le_div_iff₀ (zpow_pos two_pos _)]
  push_cast
  exact hle

/-! ### Doubles -/

/-- A positive number is rounded to the nearest number of units. -/
theorem exists_rounded_eq {x : ℚ} (hx : 0 < x) :
    ∃ k, IsNearest (x * 2 ^ (-unitExponent x)) k ∧ rounded x = k * 2 ^ unitExponent x := by
  have hnum : 0 < x.num := Rat.num_pos.2 hx
  have hpart : (x.num.natAbs : ℚ) / x.den = x := by
    have habs : ((x.num.natAbs : ℤ) : ℚ) = x.num := by rw [Int.natAbs_of_nonneg hnum.le]
    rw [← Int.cast_natCast, habs, Rat.num_div_den]
  have hexp : exponentOf x.num.natAbs x.den = unitExponent x := by
    rw [exponentOf_eq (Int.natAbs_pos.2 hnum.ne') x.den_pos, hpart]
  have hk := isNearest_scaled x.num.natAbs x.den_pos (unitExponent x)
  rw [hpart] at hk
  exact ⟨_, hk, by simp only [rounded, hexp, if_neg hnum.not_gt, value_eq]⟩

@[simp] theorem rounded_zero : rounded 0 = 0 := by
  have hk := isNearest_scaled 0 one_pos (exponentOf 0 1)
  have hzero := Nat.le_zero.1 (hk.mono (isNearest_natCast 0) (by simp))
  simp [rounded, value_eq, hzero]

theorem rounded_neg (x : ℚ) : rounded (-x) = -rounded x := by
  rcases lt_trichotomy x 0 with h | rfl | h
  · have hnum : x.num < 0 := Rat.num_neg.2 h
    simp only [rounded, Rat.num_neg_eq_neg_num, Rat.den_neg_eq_den, Int.natAbs_neg]
    rw [if_neg (by omega), if_pos hnum, neg_neg]
  · simp
  · have hnum : 0 < x.num := Rat.num_pos.2 h
    simp only [rounded, Rat.num_neg_eq_neg_num, Rat.den_neg_eq_den, Int.natAbs_neg]
    rw [if_pos (by omega), if_neg (by omega)]

theorem rounded_nonneg {x : ℚ} (hx : 0 ≤ x) : 0 ≤ rounded x := by
  rcases hx.eq_or_lt with rfl | hx
  · rw [rounded_zero]
  · obtain ⟨k, -, h⟩ := exists_rounded_eq hx
    rw [h]
    exact mul_nonneg (Nat.cast_nonneg k) (zpow_pos two_pos _).le

theorem rounded_le_rounded_of_pos {x y : ℚ} (hx : 0 < x) (h : x ≤ y) : rounded x ≤ rounded y := by
  obtain ⟨j, hj, hjeq⟩ := exists_rounded_eq hx
  obtain ⟨k, hk, hkeq⟩ := exists_rounded_eq (hx.trans_le h)
  rw [hjeq, hkeq]
  rcases (unitExponent_mono hx h).eq_or_lt with hunit | hunit
  · -- In one unit the number of units is monotone.
    rw [hunit] at hj ⊢
    have hjk : j ≤ k := hj.mono hk (mul_le_mul_of_nonneg_right h (zpow_pos two_pos _).le)
    exact mul_le_mul_of_nonneg_right (by exact_mod_cast hjk) (zpow_pos two_pos _).le
  · -- With a smaller unit, fifty-three digits are no more than fifty-two of the larger one.
    have hjle : j ≤ 2 ^ 53 := hj.mono (isNearest_natCast _) mul_unit_le
    have hlek : 2 ^ 52 ≤ k := (isNearest_natCast _).mono hk
      (le_mul_unit (hx.trans_le h) (lt_of_le_of_lt (le_max_left ..) hunit))
    calc (j : ℚ) * 2 ^ unitExponent x
      _ ≤ 2 ^ 53 * 2 ^ unitExponent x :=
        mul_le_mul_of_nonneg_right (by exact_mod_cast hjle) (zpow_pos two_pos _).le
      _ = 2 ^ 52 * 2 ^ (unitExponent x + 1) := by rw [zpow_add_one₀ two_ne_zero]; ring
      _ ≤ 2 ^ 52 * 2 ^ unitExponent y :=
        mul_le_mul_of_nonneg_left (zpow_le_zpow_right₀ one_le_two hunit) (by positivity)
      _ ≤ k * 2 ^ unitExponent y :=
        mul_le_mul_of_nonneg_right (by exact_mod_cast hlek) (zpow_pos two_pos _).le

theorem rounded_mono : Monotone rounded := by
  intro x y h
  rcases lt_or_ge 0 x with hx | hx
  · exact rounded_le_rounded_of_pos hx h
  · rcases lt_or_ge y 0 with hy | hy
    · have hneg := rounded_le_rounded_of_pos (neg_pos.2 hy) (neg_le_neg h)
      rw [rounded_neg, rounded_neg] at hneg
      exact neg_le_neg_iff.1 hneg
    · have hneg := rounded_nonneg (neg_nonneg.2 hx)
      rw [rounded_neg] at hneg
      exact (neg_nonneg.1 hneg).trans (rounded_nonneg hy)

theorem rounded_eq_self {x : ℚ} (hx : 0 < x) {n : ℕ} (h : x * 2 ^ (-unitExponent x) = n) :
    rounded x = x := by
  obtain ⟨k, hk, heq⟩ := exists_rounded_eq hx
  rw [h] at hk
  have hkn : k = n :=
    le_antisymm (hk.mono (isNearest_natCast n) le_rfl) ((isNearest_natCast n).mono hk le_rfl)
  rw [heq, hkn, ← h, mul_assoc, ← zpow_add₀ two_ne_zero, neg_add_cancel, zpow_zero, mul_one]

theorem rounded_natCast {n : ℕ} (h : n ≤ 2 ^ 53) : rounded n = n := by
  rcases n.eq_zero_or_pos with rfl | hn
  · exact rounded_zero
  have hpos : (0 : ℚ) < n := by exact_mod_cast hn
  rcases le_or_gt (unitExponent n) 0 with hunit | hunit
  · obtain ⟨m, hm⟩ := Int.eq_ofNat_of_zero_le (neg_nonneg.2 hunit)
    refine rounded_eq_self hpos (n := n * 2 ^ m) ?_
    rw [hm, zpow_natCast]
    push_cast
    rfl
  · -- A unit of two leaves the least integer with fifty-four digits.
    have hlog : 53 ≤ Int.log 2 (n : ℚ) := by unfold unitExponent at hunit; omega
    have hge : (2 : ℚ) ^ (53 : ℤ) ≤ n := (Int.zpow_le_iff_le_log one_lt_two hpos).2 hlog
    have hle : 2 ^ 53 ≤ n := by
      rw [show (53 : ℤ) = (53 : ℕ) from rfl, zpow_natCast] at hge
      exact_mod_cast hge
    obtain rfl : n = 2 ^ 53 := le_antisymm h hle
    have hunit' : unitExponent ((2 ^ 53 : ℕ) : ℚ) = 1 := by
      rw [unitExponent, log_eq (k := 53)] <;> norm_num
    refine rounded_eq_self hpos (n := 2 ^ 52) ?_
    rw [hunit']
    norm_num

theorem rounded_intCast {n : ℤ} (h : |n| ≤ 2 ^ 53) : rounded n = n := by
  obtain ⟨k, rfl | rfl⟩ := n.eq_nat_or_neg
  · exact rounded_natCast (by rw [abs_of_nonneg (Int.natCast_nonneg k)] at h; exact_mod_cast h)
  · rw [abs_neg, abs_of_nonneg (Int.natCast_nonneg k)] at h
    push_cast
    rw [rounded_neg, rounded_natCast (by exact_mod_cast h)]

end ChatFlow.Binary64
