import Mathlib.Algebra.Order.Field.Power
import Mathlib.Tactic.Linarith
import Mathlib.Tactic.NormNum
import Mathlib.Tactic.Ring
import PropertyGraph.Numeric.Decimal
import PropertyGraph.Proofs.Numeric.Rounding

/-!
# Numbers too large to be finite

A fraction is rounded to a finite number exactly if it is below `overflowThreshold`, half way
between the largest finite number and the next power of two (`isFinite_ofRatio_iff`).  Its leading
bit tells the grid on which it is rounded (`scaleFor_spec`).  Below the last grid there is room for
a significand that is rounded up to the next power of two; on the last one there is none, and the
tie goes to this power of two, as it is even.

The same is true of decimals, however large their exponents are (`isFinite_ofDecimal_iff`).
-/

namespace PropertyGraph.Binary64

/-- Half way between the largest finite number and `2 ^ 1024`. -/
def overflowThreshold : Rat := 2 ^ 1024 - 2 ^ 970

theorem overflowThreshold_eq : overflowThreshold = (2 ^ 53 - 1 / 2) * 2 ^ 971 := by
  have hlarge : (2 : Rat) ^ 1024 = 2 ^ 53 * 2 ^ 971 := by rw [← pow_add]
  have hhalf : (2 : Rat) ^ 971 = 2 * 2 ^ 970 := by rw [← pow_succ']
  rw [overflowThreshold, hlarge, hhalf, sub_mul, ← mul_assoc (1 / 2 : Rat), one_div,
    inv_mul_cancel₀ two_ne_zero, one_mul]

theorem two_pow_lt_overflowThreshold : (2 : Rat) ^ 1023 < overflowThreshold := by
  have hpower : (2 : Rat) ^ 1023 = 2 ^ 52 * 2 ^ 971 := by rw [← pow_add]
  rw [overflowThreshold_eq, hpower]
  exact mul_lt_mul_of_pos_right (by norm_num) (pow_pos two_pos 971)

theorem overflowThreshold_lt_two_pow : overflowThreshold < 2 ^ 1024 :=
  sub_lt_self _ (pow_pos two_pos 970)

/-! ### The leading bit of a fraction -/

section Fraction

variable {num den : Nat}

theorem reachesPower_iff (hden : 0 < den) (e : Int) :
    reachesPower num den e = true ↔ (2 : Rat) ^ e ≤ num / den := by
  have hpos : (0 : Rat) < den := Nat.cast_pos.mpr hden
  cases e with
  | ofNat e =>
    rw [reachesPower, decide_eq_true_iff, Int.ofNat_eq_natCast, zpow_natCast, le_div_iff₀ hpos,
      Nat.mul_comm]
    exact_mod_cast Iff.rfl
  | negSucc e =>
    rw [reachesPower, decide_eq_true_iff, zpow_negSucc, le_div_iff₀ hpos,
      inv_mul_le_iff₀ (pow_pos two_pos (e + 1)), mul_comm]
    exact_mod_cast Iff.rfl

theorem leadingExponent_spec (hnum : num ≠ 0) (hden : 0 < den) :
    (2 : Rat) ^ leadingExponent num den ≤ num / den ∧
      (num / den : Rat) < 2 ^ (leadingExponent num den + 1) := by
  have hpos : (0 : Rat) < den := Nat.cast_pos.mpr hden
  have hnumLow : (2 : Rat) ^ num.log2 ≤ num := by exact_mod_cast Nat.log2_self_le hnum
  have hnumHigh : (num : Rat) < 2 ^ (num.log2 + 1) := by exact_mod_cast @Nat.lt_log2_self num
  have hdenLow : (2 : Rat) ^ den.log2 ≤ den := by exact_mod_cast Nat.log2_self_le hden.ne'
  have hdenHigh : (den : Rat) < 2 ^ (den.log2 + 1) := by exact_mod_cast @Nat.lt_log2_self den
  -- the difference of the bit lengths is the exponent or one more
  have hlow : (2 : Rat) ^ ((num.log2 : Int) - den.log2 - 1) ≤ num / den := by
    rw [le_div_iff₀ hpos]
    calc (2 : Rat) ^ ((num.log2 : Int) - den.log2 - 1) * den
        ≤ 2 ^ ((num.log2 : Int) - den.log2 - 1) * 2 ^ (den.log2 + 1) :=
          mul_le_mul_of_nonneg_left hdenHigh.le (zpow_nonneg two_pos.le _)
      _ = 2 ^ num.log2 := by
          rw [← zpow_natCast, ← zpow_natCast, ← zpow_add₀ two_ne_zero]
          congr 1
          push_cast
          ring
      _ ≤ num := hnumLow
  have hhigh : (num / den : Rat) < 2 ^ ((num.log2 : Int) - den.log2 + 1) := by
    rw [div_lt_iff₀ hpos]
    calc (num : Rat) < 2 ^ (num.log2 + 1) := hnumHigh
      _ = 2 ^ ((num.log2 : Int) - den.log2 + 1) * 2 ^ den.log2 := by
          rw [← zpow_natCast, ← zpow_natCast, ← zpow_add₀ two_ne_zero]
          congr 1
          push_cast
          ring
      _ ≤ 2 ^ ((num.log2 : Int) - den.log2 + 1) * den :=
          mul_le_mul_of_nonneg_left hdenLow (zpow_nonneg two_pos.le _)
  unfold leadingExponent
  dsimp only
  cases hreaches : reachesPower num den ((num.log2 : Int) - den.log2) with
  | true => exact ⟨(reachesPower_iff hden _).mp hreaches, hhigh⟩
  | false =>
    refine ⟨hlow, ?_⟩
    rw [cond_false, Int.sub_add_cancel]
    exact not_le.mp fun hle => Bool.false_ne_true
      (hreaches.symm.trans ((reachesPower_iff hden _).mpr hle))

/-- At the scale of a fraction its significand has at most 53 bits, and at a scale above the least
one it has no fewer. -/
theorem scaleFor_spec (hnum : num ≠ 0) (hden : 0 < den) :
    (num / den : Rat) < 2 ^ ((scaleFor num den : Int) - 1021) ∧
      (0 < scaleFor num den → (2 : Rat) ^ ((scaleFor num den : Int) - 1022) ≤ num / den) := by
  obtain ⟨hlow, hhigh⟩ := leadingExponent_spec hnum hden
  have hscale : scaleFor num den = (leadingExponent num den + 1022).toNat := by
    unfold scaleFor
    congr 1
    ring
  refine ⟨hhigh.trans_le (zpow_le_zpow_right₀ one_le_two (by omega)), fun hpos => ?_⟩
  rwa [show (scaleFor num den : Int) - 1022 = leadingExponent num den by omega]

/-! ### Halves -/

theorem roundHalfEven_le {k : Nat} (hden : 0 < den) (h : (num / den : Rat) ≤ k) :
    roundHalfEven num den ≤ k := by
  rw [div_le_iff₀ (Nat.cast_pos.mpr hden)] at h
  exact (roundHalfEven_mono den (by exact_mod_cast h)).trans_eq (roundHalfEven_mul k hden)

theorem le_roundHalfEven {k : Nat} (hden : 0 < den) (h : (k : Rat) ≤ num / den) :
    k ≤ roundHalfEven num den := by
  rw [le_div_iff₀ (Nat.cast_pos.mpr hden)] at h
  exact (roundHalfEven_mul k hden).symm.trans_le (roundHalfEven_mono den (by exact_mod_cast h))

/-- The half below an even integer is rounded up to it. -/
theorem roundHalfEven_lt_iff {k : Nat} (hden : 0 < den) (hk : k % 2 = 0) :
    roundHalfEven num den < k ↔ (num / den : Rat) < k - 1 / 2 := by
  have hhalf : (num / den : Rat) < k - 1 / 2 ↔ 2 * num + den < 2 * (k * den) := by
    rw [div_lt_iff₀ (Nat.cast_pos.mpr hden), ← @Nat.cast_lt Rat]
    push_cast
    constructor <;> intro h <;> linarith
  have hnum := Nat.div_add_mod' num den
  have hremainder : num % den < den := Nat.mod_lt num hden
  rw [hhalf]
  unfold roundHalfEven
  dsimp only
  rcases Nat.lt_trichotomy (num / den + 1) k with hlt | heq | hgt
  · have hproduct : (num / den + 2) * den ≤ k * den := Nat.mul_le_mul_right den hlt
    rw [Nat.add_mul] at hproduct
    refine iff_of_true ?_ (by omega)
    split <;> omega
  · -- the quotient is odd, so its half is rounded up
    have hodd : num / den % 2 = 1 := by omega
    have hproduct : k * den = num / den * den + den := by rw [← heq, Nat.succ_mul]
    simp only [hodd, Bool.or_eq_true, Bool.and_eq_true, decide_eq_true_eq, beq_iff_eq, and_true]
    split <;> omega
  · have hproduct : k * den ≤ num / den * den := Nat.mul_le_mul_right den (by omega)
    refine iff_of_false ?_ (by omega)
    split <;> omega

/-! ### Fractions -/

/-- The significand of a fraction is the integer next to it on the grid of its scale. -/
def significandOf (num den : Nat) : Nat :=
  roundHalfEven (num * 2 ^ (1074 - scaleFor num den)) (den * 2 ^ (scaleFor num den - 1074))

theorem ofRatio_eq (hnum : num ≠ 0) : ofRatio num den = ofMagnitude false
    (Nat.min (scaleFor num den * 2 ^ 52 + significandOf num den) infinityMagnitude) := by
  rw [ofRatio, if_neg hnum]
  unfold significandOf
  simp only [Nat.pow_eq]
  -- one of the two powers is that of zero
  split_ifs with hsmall
  · rw [show scaleFor num den - 1074 = 0 by omega, Nat.pow_zero, Nat.mul_one]
  · rw [show 1074 - scaleFor num den = 0 by omega, Nat.pow_zero, Nat.mul_one]

theorem onGrid (num den scale : Nat) :
    ((num * 2 ^ (1074 - scale) : Nat) / (den * 2 ^ (scale - 1074) : Nat) : Rat)
      = num / den * 2 ^ (1074 - scale : Int) := by
  push_cast
  rw [mul_div_mul_comm, ← zpow_natCast, ← zpow_natCast, ← zpow_sub₀ two_ne_zero,
    show ((1074 - scale : Nat) : Int) - (scale - 1074 : Nat) = 1074 - scale by omega]

/-- A significand has 53 bits at most, or it is the next power of two; at a scale above the least
one it has no fewer. -/
theorem significandOf_bounds (hnum : num ≠ 0) (hden : 0 < den) :
    significandOf num den ≤ 2 ^ 53 ∧ (0 < scaleFor num den → 2 ^ 52 ≤ significandOf num den) := by
  obtain ⟨hhigh, hlow⟩ := scaleFor_spec hnum hden
  have hgrid : 0 < den * 2 ^ (scaleFor num den - 1074) := Nat.mul_pos hden (Nat.two_pow_pos _)
  have hunit : (0 : Rat) < 2 ^ (1074 - scaleFor num den : Int) := zpow_pos two_pos _
  refine ⟨roundHalfEven_le hgrid ?_, fun hpos => le_roundHalfEven hgrid ?_⟩
  · rw [onGrid]
    refine (mul_le_mul_of_nonneg_right hhigh.le hunit.le).trans_eq ?_
    rw [← zpow_add₀ two_ne_zero, show (scaleFor num den : Int) - 1021
      + (1074 - scaleFor num den) = 53 by ring]
    norm_num
  · rw [onGrid]
    refine Eq.trans_le ?_ (mul_le_mul_of_nonneg_right (hlow hpos) hunit.le)
    rw [← zpow_add₀ two_ne_zero, show (scaleFor num den : Int) - 1022
      + (1074 - scaleFor num den) = 52 by ring]
    norm_num

theorem infinityMagnitude_eq : infinityMagnitude = 2047 * 2 ^ 52 := rfl

/-- The significand is finite as long as there is room for it below infinity. -/
theorem isFinite_ofRatio_iff_significand (hnum : num ≠ 0) :
    (ofRatio num den).isFinite = true ↔
      scaleFor num den * 2 ^ 52 + significandOf num den < 2047 * 2 ^ 52 := by
  have hbound : Nat.min (scaleFor num den * 2 ^ 52 + significandOf num den) infinityMagnitude
      < 2 ^ 63 := Nat.lt_of_le_of_lt (Nat.min_le_right _ _) (by decide)
  rw [ofRatio_eq hnum, isFinite, decide_eq_true_iff, (magnitude_ofMagnitude hbound).1,
    infinityMagnitude_eq]
  exact min_lt_iff.trans (or_iff_left (lt_irrefl _))

/-- A fraction is rounded to a finite number exactly if it is below the threshold. -/
theorem isFinite_ofRatio_iff (hden : 0 < den) :
    (ofRatio num den).isFinite = true ↔ (num / den : Rat) < overflowThreshold := by
  rcases Nat.eq_zero_or_pos num with rfl | hpos
  · refine iff_of_true isFinite_zero ?_
    rw [Nat.cast_zero, zero_div]
    exact (pow_pos two_pos _).trans two_pow_lt_overflowThreshold
  have hnum : num ≠ 0 := hpos.ne'
  obtain ⟨hhigh, hlow⟩ := scaleFor_spec hnum hden
  obtain ⟨hmost, hleast⟩ := significandOf_bounds hnum hden
  rw [isFinite_ofRatio_iff_significand hnum]
  rcases Nat.lt_trichotomy (scaleFor num den) 2045 with hbelow | hlast | habove
  · refine iff_of_true (by omega) ?_
    refine (hhigh.trans_le ?_).trans two_pow_lt_overflowThreshold
    rw [← zpow_natCast]
    exact zpow_le_zpow_right₀ one_le_two (by push_cast; omega)
  · -- on the last grid there is no room for the next power of two
    have hroom : 2045 * 2 ^ 52 + significandOf num den < 2047 * 2 ^ 52 ↔
        significandOf num den < 2 ^ 53 := by omega
    have hgrid : 0 < den * 2 ^ (scaleFor num den - 1074) := Nat.mul_pos hden (Nat.two_pow_pos _)
    rw [hlast, hroom, significandOf, roundHalfEven_lt_iff hgrid (by decide), onGrid, hlast,
      overflowThreshold_eq, ← div_lt_iff₀ (pow_pos two_pos 971)]
    rw [show (1074 - (2045 : Nat) : Int) = -(971 : Nat) by norm_num, zpow_neg, zpow_natCast,
      ← div_eq_mul_inv]
    norm_num
  · have hfull := hleast (by omega)
    refine iff_of_false (by omega) (not_lt.mpr ?_)
    refine overflowThreshold_lt_two_pow.le.trans (le_trans ?_ (hlow (by omega)))
    rw [← zpow_natCast]
    exact zpow_le_zpow_right₀ one_le_two (by push_cast; omega)

/-- A fraction that is not rounded to a finite number is rounded to infinity. -/
theorem ofRatio_of_not_isFinite (h : (ofRatio num den).isFinite = false) :
    ofRatio num den = infinity := by
  have hnum : num ≠ 0 := by
    rintro rfl
    cases isFinite_zero.symm.trans h
  have hfull := mt (isFinite_ofRatio_iff_significand hnum).mpr (Bool.not_eq_true _ ▸ h)
  have hmin : Nat.min (scaleFor num den * 2 ^ 52 + significandOf num den) infinityMagnitude
      = infinityMagnitude := Nat.min_eq_right (not_lt.mp hfull)
  rw [ofRatio_eq hnum, hmin]
  rfl

end Fraction

/-! ### Decimals -/

theorem digitsOf_bounds {n : Nat} (hn : n ≠ 0) :
    (10 : Rat) ^ ((Decimal.digitsOf n).length - 1 : Int) ≤ n ∧
      (n : Rat) < 10 ^ ((Decimal.digitsOf n).length : Int) := by
  have hpos : 0 < (Decimal.digitsOf n).length := Nat.length_toDigits_pos
  have hhigh : n < 10 ^ (Decimal.digitsOf n).length :=
    (Nat.length_toDigits_le_iff (by decide) hpos).mp (le_refl _)
  have hlow : 10 ^ ((Decimal.digitsOf n).length - 1) ≤ n := by
    by_contra hlt
    rcases Nat.eq_zero_or_pos ((Decimal.digitsOf n).length - 1) with hone | hmore
    · rw [hone, pow_zero] at hlt
      omega
    · have := (Nat.length_toDigits_le_iff (by decide) hmore).mpr (not_le.mp hlt)
      have hdigits : (Nat.toDigits 10 n).length = (Decimal.digitsOf n).length := rfl
      omega
  constructor
  · rw [show ((Decimal.digitsOf n).length - 1 : Int) = ((Decimal.digitsOf n).length - 1 : Nat) by
      omega, zpow_natCast]
    exact_mod_cast hlow
  · rw [zpow_natCast]
    exact_mod_cast hhigh

theorem overflowThreshold_lt_ten_pow : overflowThreshold < 10 ^ 400 := by
  have hpower : (2 : Rat) ^ 1024 ≤ 2 ^ (3 * 400) := pow_le_pow_right₀ one_le_two (by norm_num)
  refine overflowThreshold_lt_two_pow.trans_le (hpower.trans ?_)
  rw [pow_mul]
  exact pow_le_pow_left₀ (by norm_num) (by norm_num) 400

theorem one_lt_overflowThreshold : 1 < overflowThreshold :=
  (one_le_pow₀ one_le_two).trans_lt two_pow_lt_overflowThreshold

/-- The fraction that a decimal is rounded as, unless its size alone tells the result. -/
theorem ofDecimal_cases (digits : Nat) (exponent : Int) :
    (∃ num den : Nat, 0 < den ∧ (digits * 10 ^ exponent : Rat) = num / den ∧
        ofDecimal digits exponent = ofRatio num den) ∨
      (digits * 10 ^ exponent : Rat) < overflowThreshold ∧ ofDecimal digits exponent = zero ∨
      overflowThreshold ≤ (digits * 10 ^ exponent : Rat) ∧
        ofDecimal digits exponent = infinity := by
  have hunit : (0 : Rat) < 10 ^ exponent := zpow_pos (by norm_num) _
  unfold ofDecimal
  dsimp only
  split_ifs with hsmall hlarge
  · refine Or.inr (Or.inl ⟨?_, rfl⟩)
    by_cases hzero : digits = 0
    · rw [hzero, Nat.cast_zero, zero_mul]
      exact one_pos.trans one_lt_overflowThreshold
    · refine lt_of_le_of_lt ?_ one_lt_overflowThreshold
      calc (digits * 10 ^ exponent : Rat)
          ≤ 10 ^ ((Decimal.digitsOf digits).length : Int) * 10 ^ exponent :=
            mul_le_mul_of_nonneg_right (digitsOf_bounds hzero).2.le hunit.le
        _ = 10 ^ ((Decimal.digitsOf digits).length + exponent) := (zpow_add₀ (by norm_num) ..).symm
        _ ≤ 1 := zpow_le_one_of_nonpos₀ (by norm_num) (by have := hsmall.resolve_left hzero; omega)
  · refine Or.inr (Or.inr ⟨?_, rfl⟩)
    have hzero : digits ≠ 0 := fun heq => hsmall (Or.inl heq)
    calc overflowThreshold ≤ 10 ^ 400 := overflowThreshold_lt_ten_pow.le
      _ ≤ 10 ^ ((Decimal.digitsOf digits).length - 1 + exponent) := by
          rw [← zpow_natCast]
          exact zpow_le_zpow_right₀ (by norm_num) (by push_cast; omega)
      _ = 10 ^ ((Decimal.digitsOf digits).length - 1 : Int) * 10 ^ exponent :=
          zpow_add₀ (by norm_num) ..
      _ ≤ digits * 10 ^ exponent :=
          mul_le_mul_of_nonneg_right (digitsOf_bounds hzero).1 hunit.le
  · left
    cases exponent with
    | ofNat e =>
      refine ⟨digits * Nat.pow 10 e, 1, Nat.one_pos, ?_, rfl⟩
      rw [Int.ofNat_eq_natCast, zpow_natCast, Nat.pow_eq]
      push_cast
      rw [div_one]
    | negSucc e =>
      refine ⟨digits, Nat.pow 10 (e + 1), Nat.pow_pos (by decide), ?_, rfl⟩
      rw [zpow_negSucc, Nat.pow_eq, ← div_eq_mul_inv]
      push_cast
      rfl

/-- A decimal is read as a finite number exactly if it is below the threshold. -/
theorem isFinite_ofDecimal_iff (digits : Nat) (exponent : Int) :
    (ofDecimal digits exponent).isFinite = true ↔
      (digits * 10 ^ exponent : Rat) < overflowThreshold := by
  rcases ofDecimal_cases digits exponent with
    ⟨num, den, hden, hvalue, heq⟩ | ⟨hlt, heq⟩ | ⟨hle, heq⟩
  · rw [heq, hvalue, isFinite_ofRatio_iff hden]
  · rw [heq]
    exact iff_of_true isFinite_zero hlt
  · rw [heq]
    exact iff_of_false (by decide) (not_lt.mpr hle)

/-- A decimal that is not read as a finite number is read as infinity. -/
theorem ofDecimal_of_not_isFinite {digits : Nat} {exponent : Int}
    (h : (ofDecimal digits exponent).isFinite = false) : ofDecimal digits exponent = infinity := by
  rcases ofDecimal_cases digits exponent with ⟨num, den, -, -, heq⟩ | ⟨-, heq⟩ | ⟨-, heq⟩
  · rw [heq] at h ⊢
    exact ofRatio_of_not_isFinite h
  · rw [heq] at h
    cases h
  · exact heq

end PropertyGraph.Binary64
