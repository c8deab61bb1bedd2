import Mathlib.Algebra.Order.Ring.Int
import Mathlib.Tactic.Ring
import PropertyGraph.Proofs.Numeric.Value

/-!
# Exact addition

`value_add`: where the sum of two finite numbers is the value of a number, adding the numbers gives
a number of this value.  Addition takes numbers apart into signs, significands and exponents,
`FormOf` says which parts belong to a number of units, and unpacking (`formOf_toForm`), adding
(`formOf_add`) and packing (`ofForm_spec`) each keep to it.  The heart is rounding: a sum that is
the value of a number has only zeros where it is cut (`round_exact`).
-/

namespace PropertyGraph.Binary64

open Float.Model (Format UnpackedFloat)
open Float.Model.UnpackedFloat (Sign ExtendedMantissa unpackMantissa unpackExponent unpackSign
  packComponents)

/-! ### Parts of a number -/

/-- The sign of a number as a part of it. -/
def sign (x : Binary64) : Sign := if x.isNegative then .negative else .positive

theorem units_eq_apply (x : Binary64) :
    x.units = x.sign.apply (x.significand * 2 ^ x.scale : Nat) := by
  unfold units sign
  split <;> rfl

theorem apply_mul (s : Sign) (m n : Nat) : s.apply (m * n : Nat) = s.apply m * n := by
  cases s <;> simp [Sign.apply]

/-- The parts of a finite number of so many units.  The significand has 53 bits, or the scale is the
least one. -/
def FormOf (n : Int) : UnpackedFloat → Prop
  | .zero _ => n = 0
  | .finite s m e _ =>
    ∃ k : Nat, e = k - 1074 ∧ k ≤ 2045 ∧ m < 2 ^ 53 ∧ (2 ^ 52 ≤ m ∨ k = 0) ∧
      n = s.apply (m * 2 ^ k : Nat)
  | _ => False

/-- The parts of a number. -/
def toForm (x : Binary64) : UnpackedFloat := .unpack Format.binary64 x.bits.toBitVec

/-- The number of some parts. -/
def ofForm (f : UnpackedFloat) : Binary64 := ⟨UInt64.ofBitVec (f.pack Format.binary64)⟩

/-! ### Unpacking -/

theorem toNat_unpackMantissa (x : Binary64) :
    (@unpackMantissa Format.binary64 x.bits.toBitVec).toNat = x.magnitude % 2 ^ 52 := by
  unfold unpackMantissa magnitude
  simp

theorem toNat_unpackExponent (x : Binary64) :
    (@unpackExponent Format.binary64 x.bits.toBitVec).toNat = x.magnitude / 2 ^ 52 := by
  unfold unpackExponent magnitude
  simp [Nat.shiftRight_eq_div_pow]
  omega

theorem ofBitVec_unpackSign (x : Binary64) :
    Sign.ofBitVec (@unpackSign Format.binary64 x.bits.toBitVec) = x.sign := by
  have hlt := x.bits.toNat_lt
  have hbit : (@unpackSign Format.binary64 x.bits.toBitVec).toNat
      = x.bits.toNat / 2 ^ 63 := by
    unfold unpackSign
    simp [Nat.shiftRight_eq_div_pow]
    omega
  have hzero : @unpackSign Format.binary64 x.bits.toBitVec = 0#1
      ↔ ¬ x.isNegative = true := by
    rw [← BitVec.toNat_inj, hbit]
    simp only [isNegative, Nat.pow_eq, decide_eq_true_eq, BitVec.toNat_ofNat]
    omega
  unfold Sign.ofBitVec sign
  simp only [hzero, ite_not]

theorem formOf_toForm {x : Binary64} (h : x.isFinite = true) : FormOf x.units x.toForm := by
  have hfraction := toNat_unpackMantissa x
  have hexponent := toNat_unpackExponent x
  have hmagnitude : x.magnitude < 2047 * 2 ^ 52 := of_decide_eq_true h
  have hlt : x.magnitude % 2 ^ 52 < 2 ^ 52 := Nat.mod_lt _ (Nat.two_pow_pos 52)
  set exponent := @unpackExponent Format.binary64 x.bits.toBitVec with hexponentDef
  have hfinite : exponent ≠ -1#_ := by
    intro hones
    rw [hones, show (-1#11).toNat = 2047 from rfl] at hexponent
    omega
  unfold toForm UnpackedFloat.unpack
  rw [units_eq_apply]
  dsimp only
  rw [← hexponentDef, if_neg hfinite, ofBitVec_unpackSign]
  by_cases hzero : exponent = 0#11
  · rw [if_pos hzero]
    rw [hzero] at hexponent
    by_cases hnothing : @unpackMantissa Format.binary64 x.bits.toBitVec = 0#52
    · rw [dif_pos hnothing]
      rw [hnothing] at hfraction
      show x.sign.apply (x.significand * 2 ^ x.scale : Nat) = 0
      simp only [significand, scale, Nat.pow_eq, ← hexponent, ← hfraction]
      cases x.sign <;> rfl
    · -- the exponent is zero, and so is the scale
      rw [dif_neg hnothing]
      have hscale : x.scale = 0 := by
        simp only [scale, Nat.pow_eq, ← hexponent]
        rfl
      have hsignificand :
          x.significand = (@unpackMantissa Format.binary64 x.bits.toBitVec).toNat := by
        simp only [significand, Nat.pow_eq, ← hexponent, hfraction]
        rfl
      refine ⟨0, ?_, by omega, by omega, Or.inr rfl, by rw [hscale, hsignificand]⟩
      rw [hzero]
      rfl
  · -- the leading bit of the significand is not among the bits of the number
    rw [if_neg hzero]
    have hpos : x.magnitude / 2 ^ 52 ≠ 0 := fun hnone =>
      hzero (BitVec.eq_of_toNat_eq (hexponent.trans hnone))
    have hleading : (1#1 ++ @unpackMantissa Format.binary64 x.bits.toBitVec).toNat
        = x.magnitude % 2 ^ 52 + 2 ^ 52 := by
      rw [BitVec.toNat_append, ← Nat.shiftLeft_add_eq_or_of_lt (BitVec.isLt _), hfraction,
        Nat.shiftLeft_eq]
      exact Nat.add_comm _ _
    refine ⟨x.scale, ?_, scale_le h, by omega, Or.inl (by omega), ?_⟩
    · simp only [Format.exponentBias, scale, Nat.pow_eq, hexponent]
      omega
    · simp only [hleading, significand, Nat.pow_eq, if_neg hpos]

/-! ### Packing -/

theorem toNat_packComponents (s : Sign) (exponent : BitVec 11) (fraction : BitVec 52) :
    (packComponents Format.binary64 s exponent fraction).toNat
      = s.toBitVec.toNat * 2 ^ 63 + exponent.toNat * 2 ^ 52 + fraction.toNat := by
  unfold packComponents
  rw [BitVec.toNat_append, BitVec.toNat_append, ← Nat.shiftLeft_add_eq_or_of_lt fraction.isLt,
    ← Nat.shiftLeft_add_eq_or_of_lt exponent.isLt, Nat.shiftLeft_eq, Nat.shiftLeft_eq]
  ring

theorem bits_ofForm (s : Sign) {m k : Nat} (hpos : 0 < m) (hk : k ≤ 2045) (hm : m < 2 ^ 53)
    (hnormal : 2 ^ 52 ≤ m ∨ k = 0) :
    (ofForm (.finite s m (k - 1074) hpos)).bits.toNat
      = s.toBitVec.toNat * 2 ^ 63 + (k * 2 ^ 52 + m) := by
  have hbiased :
      ((k : Int) - 1074 + Format.binary64.exponentBias + (52 : Nat)).toNat = k + 1 := by
    simp only [Format.exponentBias]
    omega
  unfold ofForm UnpackedFloat.pack
  simp only [hbiased]
  rw [if_neg (by omega)]
  by_cases hlow : m < 2 ^ 52
  · have hlog := (Nat.log2_lt hpos.ne').mpr hlow
    have hshort : ¬ m.log2 + 1 = 53 := by omega
    rw [if_neg (show ¬ m.log2 + 1 = Format.binary64.mantissaBits from hshort)]
    simp only [UInt64.toNat_ofBitVec, toNat_packComponents, BitVec.toNat_ofNat]
    omega
  · have hlog := (Nat.log2_eq_iff hpos.ne').mpr ⟨Nat.le_of_not_lt hlow, hm⟩
    rw [if_pos (by rw [hlog]; rfl)]
    simp only [UInt64.toNat_ofBitVec, toNat_packComponents, BitVec.toNat_ofNat]
    omega

/-- The number of the parts of a finite number. -/
theorem ofForm_spec {n : Int} {f : UnpackedFloat} (h : FormOf n f) :
    (ofForm f).isFinite = true ∧ (ofForm f).units = n := by
  match f, h with
  | .zero s, hn =>
    obtain rfl : n = 0 := hn
    cases s <;> exact ⟨by decide, by decide⟩
  | .finite s m e hpos, ⟨k, he, hk, hm, hnormal, hn⟩ =>
    subst he hn
    have hbits := bits_ofForm s hpos hk hm hnormal
    have hsign : s.toBitVec.toNat < 2 := s.toBitVec.isLt
    generalize ofForm (.finite s m (k - 1074) hpos) = z at hbits
    have hmagnitude : z.magnitude = k * 2 ^ 52 + m := by
      simp only [magnitude, Nat.pow_eq]
      omega
    have hnegative : z.isNegative = decide (s.toBitVec.toNat = 1) := by
      simp only [isNegative, Nat.pow_eq, hbits]
      exact decide_eq_decide.mpr (by omega)
    refine ⟨decide_eq_true ?_, ?_⟩
    · rw [hmagnitude, infinityMagnitude]
      omega
    · rw [units_eq, hmagnitude, unitsOfMagnitude_eq hm hnormal, hnegative]
      cases s <;> rfl

/-! ### Rounding -/

theorem log2_mul_two_pow {m : Nat} (hm : m ≠ 0) (k : Nat) : (m * 2 ^ k).log2 = m.log2 + k := by
  refine (Nat.log2_eq_iff (Nat.mul_ne_zero hm (Nat.two_pow_pos k).ne')).mpr ⟨?_, ?_⟩
  · rw [Nat.pow_add]
    exact Nat.mul_le_mul_right _ (Nat.log2_self_le hm)
  · rw [Nat.add_right_comm, Nat.pow_add]
    exact Nat.mul_lt_mul_of_pos_right Nat.lt_log2_self (Nat.two_pow_pos k)

/-- The scale at which so many units have a significand of 53 bits, or the least scale. -/
def scaleOf (n : Nat) : Nat := n.log2 - 52

theorem targetExponent_eq {m k : Nat} (hm : m ≠ 0) :
    Format.binary64.targetExponent (Float.Model.totalExponent m ((k : Int) - 1074))
      = (scaleOf (m * 2 ^ k) : Int) - 1074 := by
  have hbits : Format.binary64.mantissaBits = 53 := rfl
  simp only [Format.targetExponent, Float.Model.totalExponent, hbits, Format.minExponent, scaleOf,
    log2_mul_two_pow hm]
  omega

/-- Shifting out zeros leaves no rest. -/
theorem shiftRight_exact (m k : Nat) :
    ExtendedMantissa.mk (m * 2 ^ k) false false >>> k = ⟨m, false, false⟩ := by
  induction k generalizing m with
  | zero => simp [HShiftRight.hShiftRight, Nat.repeat]
  | succ k ih =>
    have hshifted := ih (m * 2)
    rw [Nat.mul_assoc, ← Nat.pow_succ'] at hshifted
    show (ExtendedMantissa.mk (m * 2 ^ (k + 1)) false false >>> k).shiftRightOne = _
    rw [hshifted]
    simp [ExtendedMantissa.shiftRightOne]

section Exact

-- a significand `m` with its scale `t`, and the same number with a longer significand at scale `k`
variable {m t k : Nat} (hpos : 0 < m) (ht : scaleOf (m * 2 ^ t) = t) (hk : k ≤ t)
include hpos ht hk

theorem shiftToTargetExponent_exact :
    UnpackedFloat.shiftToTargetExponent Format.binary64 (m * 2 ^ (t - k)) ((k : Int) - 1074) .exact
      = (⟨m, false, false⟩, (t : Int) - 1074) := by
  have hlong : m * 2 ^ (t - k) ≠ 0 := Nat.mul_ne_zero hpos.ne' (Nat.two_pow_pos _).ne'
  have hamount : ((t : Int) - 1074 - ((k : Int) - 1074)).toNat = t - k := by omega
  unfold UnpackedFloat.shiftToTargetExponent UnpackedFloat.shiftToExponent
  simp only [targetExponent_eq hlong, Nat.mul_assoc, ← Nat.pow_add, Nat.sub_add_cancel hk, ht,
    hamount]
  rw [ExtendedMantissa.ofMantissaAndAccuracy, shiftRight_exact]
  congr 1
  omega

theorem roundWithAccuracy_exact (s : Sign) :
    UnpackedFloat.roundWithAccuracy Format.binary64 s (m * 2 ^ (t - k)) ((k : Int) - 1074) .exact
      = .finite s m (t - 1074) hpos := by
  -- what is rounded has its scale by then, so the second shift does nothing
  have hagain := shiftToTargetExponent_exact hpos ht (Nat.le_refl t)
  rw [Nat.sub_self, Nat.pow_zero, Nat.mul_one] at hagain
  have hrounded : (ExtendedMantissa.mk m false false).roundedMantissa = m := rfl
  unfold UnpackedFloat.roundWithAccuracy
  rw [shiftToTargetExponent_exact hpos ht hk]
  dsimp only
  rw [hrounded, hagain]
  exact dif_neg hpos.ne'

end Exact

/-- So many units of which nothing is cut off are rounded to themselves. -/
theorem round_exact (s : Sign) {m t n k : Nat} (hpos : 0 < m) (ht : scaleOf (m * 2 ^ t) = t)
    (heq : n * 2 ^ k = m * 2 ^ t) :
    UnpackedFloat.round Format.binary64 s n ((k : Int) - 1074) = .finite s m (t - 1074) hpos := by
  have hn : n ≠ 0 := by
    rintro rfl
    rw [Nat.zero_mul] at heq
    exact absurd heq.symm (Nat.mul_ne_zero hpos.ne' (Nat.two_pow_pos t).ne')
  have htarget := @targetExponent_eq n k hn
  rw [heq, ht] at htarget
  unfold UnpackedFloat.round UnpackedFloat.decreaseExponent
  dsimp only
  rw [htarget, Nat.shiftLeft_eq]
  rcases Nat.le_total t k with hle | hle
  · -- the significand is too short and is shifted to the left
    have hamount : ((k : Int) - 1074 - (t - 1074)).toNat = k - t := by omega
    have hshifted : n * 2 ^ (k - t) = m := by
      refine Nat.eq_of_mul_eq_mul_right (Nat.two_pow_pos t) ?_
      rw [Nat.mul_assoc, ← Nat.pow_add, Nat.sub_add_cancel hle, heq]
    have hscale : (k : Int) - 1074 - ((k - t : Nat) : Int) = t - 1074 := by omega
    have hround := roundWithAccuracy_exact hpos ht (Nat.le_refl t) s
    rw [Nat.sub_self, Nat.pow_zero, Nat.mul_one] at hround
    rw [hamount, hshifted, hscale, hround]
  · have hamount : ((k : Int) - 1074 - (t - 1074)).toNat = 0 := by omega
    have hlong : n = m * 2 ^ (t - k) := by
      refine Nat.eq_of_mul_eq_mul_right (Nat.two_pow_pos k) ?_
      rw [heq, Nat.mul_assoc, ← Nat.pow_add, Nat.sub_add_cancel hle]
    rw [hamount, Nat.pow_zero, Nat.mul_one, hlong, Nat.cast_zero, Int.sub_zero,
      roundWithAccuracy_exact hpos ht hle s]

/-- Nothing is cut off from the units of a number. -/
theorem formOf_round (s : Sign) {m k n j : Nat} (hn : n ≠ 0) (heq : n * 2 ^ j = m * 2 ^ k)
    (hm : m < 2 ^ 53) (hk : k ≤ 2045) :
    FormOf (s.apply (n * 2 ^ j : Nat))
      (UnpackedFloat.round Format.binary64 s n ((j : Int) - 1074)) := by
  have hm0 : m ≠ 0 := by
    rintro rfl
    rw [Nat.zero_mul] at heq
    exact absurd heq (Nat.mul_ne_zero hn (Nat.two_pow_pos j).ne')
  have hlog : m.log2 < 53 := (Nat.log2_lt hm0).mpr hm
  -- the scale of the sum is no larger than the one that is known, so zeros are appended
  obtain ⟨t, ht⟩ : ∃ t, t = scaleOf (n * 2 ^ j) := ⟨_, rfl⟩
  have htk : t ≤ k := by
    rw [ht, heq, scaleOf, log2_mul_two_pow hm0]
    omega
  obtain ⟨m', hm'⟩ : ∃ m', m' = m * 2 ^ (k - t) := ⟨_, rfl⟩
  have hm'0 : m' ≠ 0 := hm' ▸ Nat.mul_ne_zero hm0 (Nat.two_pow_pos _).ne'
  have heq' : n * 2 ^ j = m' * 2 ^ t := by
    rw [heq, hm', Nat.mul_assoc, ← Nat.pow_add, Nat.sub_add_cancel htk]
  have hlog' : m'.log2 + t - 52 = t := by
    rw [← log2_mul_two_pow hm'0, ← heq', ht, scaleOf]
  rw [round_exact s (Nat.pos_of_ne_zero hm'0) (by rw [← heq', ht]) heq']
  refine ⟨t, rfl, htk.trans hk, (Nat.log2_lt hm'0).mp (by omega), ?_, by rw [heq']⟩
  rcases Nat.eq_zero_or_pos t with hzero | hsome
  · exact Or.inr hzero
  · exact Or.inl ((Nat.le_log2 hm'0).mp (by omega))

/-! ### Adding -/

theorem formOf_normalize {n : Int} {k : Nat} {z : Binary64} (hz : z.isFinite = true)
    (heq : n * 2 ^ k = z.units) :
    FormOf (n * 2 ^ k)
      (UnpackedFloat.normalize Format.binary64 n ((k : Int) - 1074) .positive) := by
  have habs : n.natAbs * 2 ^ k = z.significand * 2 ^ z.scale := by
    rw [← natAbs_units, ← heq, Int.natAbs_mul, Int.natAbs_pow]
    rfl
  have hround : ∀ s : Sign, n ≠ 0 → s.apply n.natAbs = n →
      FormOf (n * 2 ^ k) (UnpackedFloat.round Format.binary64 s n.natAbs ((k : Int) - 1074)) := by
    intro s hn hs
    have hform := formOf_round s (Int.natAbs_ne_zero.mpr hn) habs (significand_lt z) (scale_le hz)
    rwa [apply_mul, hs, Nat.cast_pow] at hform
  unfold UnpackedFloat.normalize
  rcases lt_trichotomy n 0 with hneg | rfl | hpos
  · rw [Int.compare_eq_lt.mpr hneg, show (-n).toNat = n.natAbs by omega]
    exact hround .negative hneg.ne (by simp only [Sign.apply]; omega)
  · rw [Int.zero_mul]
    exact rfl
  · rw [Int.compare_eq_gt.mpr hpos, show n.toNat = n.natAbs by omega]
    exact hround .positive hpos.ne' (by simp only [Sign.apply]; omega)

/-- The parts of a sum that is a number. -/
theorem formOf_add {a b : Int} {f g : UnpackedFloat} (hf : FormOf a f) (hg : FormOf b g)
    {z : Binary64} (hz : z.isFinite = true) (heq : a + b = z.units) :
    FormOf (a + b) (f.add Format.binary64 g) := by
  match f, g, hf, hg with
  | .zero s, .zero s', hf, hg =>
    obtain rfl : a = 0 := hf
    obtain rfl : b = 0 := hg
    show FormOf _ (if s == s' then .zero s else .zero .positive)
    split <;> exact rfl
  | .zero _, .finite .., hf, hg =>
    obtain rfl : a = 0 := hf
    rw [Int.zero_add]
    exact hg
  | .finite .., .zero _, hf, hg =>
    obtain rfl : b = 0 := hg
    rw [Int.add_zero]
    exact hf
  | .finite s m e hpos, .finite s' m' e' hpos', ⟨k, he, _, _, _, ha⟩, ⟨k', he', _, _, _, hb⟩ =>
    subst he he' ha hb
    -- both are brought to the smaller scale
    obtain ⟨j, hj⟩ : ∃ j, j = Min.min k k' := ⟨_, rfl⟩
    have hle : j ≤ k := by omega
    have hle' : j ≤ k' := by omega
    have hmin : Min.min ((k : Int) - 1074) ((k' : Int) - 1074) = (j : Int) - 1074 := by omega
    have hamount : ((k : Int) - 1074 - ((j : Int) - 1074)).toNat = k - j := by omega
    have hamount' : ((k' : Int) - 1074 - ((j : Int) - 1074)).toNat = k' - j := by omega
    have hsum : (s.apply (m * 2 ^ (k - j) : Nat) + s'.apply (m' * 2 ^ (k' - j) : Nat)) * 2 ^ j
        = s.apply (m * 2 ^ k : Nat) + s'.apply (m' * 2 ^ k' : Nat) := by
      have hscale : m * 2 ^ k = m * 2 ^ (k - j) * 2 ^ j := by
        rw [Nat.mul_assoc, ← Nat.pow_add, Nat.sub_add_cancel hle]
      have hscale' : m' * 2 ^ k' = m' * 2 ^ (k' - j) * 2 ^ j := by
        rw [Nat.mul_assoc, ← Nat.pow_add, Nat.sub_add_cancel hle']
      rw [hscale, hscale', apply_mul s (_ * _), apply_mul s' (_ * _), Nat.cast_pow, Int.add_mul]
      rfl
    unfold UnpackedFloat.add UnpackedFloat.decreaseExponent
    simp only [hmin, hamount, hamount', Nat.shiftLeft_eq]
    rw [← hsum] at heq ⊢
    exact formOf_normalize hz heq

/-- Numbers are added by their parts; taking them from their bits packs and unpacks them once. -/
theorem add_eq (x y : Binary64) :
    x.add y = ofForm ((ofForm x.toForm).toForm.add Format.binary64 (ofForm y.toForm).toForm) :=
  rfl

theorem units_add {x y z : Binary64} (hx : x.isFinite = true) (hy : y.isFinite = true)
    (hz : z.isFinite = true) (h : x.units + y.units = z.units) :
    (x.add y).isFinite = true ∧ (x.add y).units = x.units + y.units := by
  have hform : ∀ {w : Binary64}, w.isFinite = true → FormOf w.units (ofForm w.toForm).toForm := by
    intro w hw
    obtain ⟨hfinite, hunits⟩ := ofForm_spec (formOf_toForm hw)
    rw [← hunits]
    exact formOf_toForm hfinite
  rw [add_eq]
  exact ofForm_spec (formOf_add (hform hx) (hform hy) hz h)

/-- Some finite number has this value. -/
def IsValue (v : Rat) : Prop := ∃ z : Binary64, z.isFinite = true ∧ z.value = v

/-- **Addition is exact** where the sum is the value of a number. -/
theorem value_add {x y : Binary64} (hx : x.isFinite = true) (hy : y.isFinite = true)
    (h : IsValue (x.value + y.value)) :
    (x.add y).isFinite = true ∧ (x.add y).value = x.value + y.value := by
  obtain ⟨z, hz, heq⟩ := h
  have hunits : x.units + y.units = z.units := by
    rw [value_eq_iff, value, value, ← add_div, div_mul_cancel₀ _ (by positivity)] at heq
    exact_mod_cast heq.symm
  obtain ⟨hfinite, hadd⟩ := units_add hx hy hz hunits
  refine ⟨hfinite, ?_⟩
  rw [value, hadd, Int.cast_add, add_div]
  rfl

end PropertyGraph.Binary64
