import PropertyGraph.Proofs.Numeric.Order

/-!
# Rounding integers

Integers of any size round to binary numbers in their order (`rank_ofInt_mono`).  The magnitude of
the number is the exponent of the leading bit, followed by the significand that the integer is
rounded to (`magnitude_ofNat`); a significand has 53 bits, or it is the next power of two, and then
it carries into the exponent.  So an integer with a lower leading bit comes to at most what the
power of two above it comes to, and one with the same leading bit is rounded to the same grid.

Rounding is not one-to-one, `2 ^ 53` and `2 ^ 53 + 1` being rounded to one number.
-/

namespace PropertyGraph.Binary64

/-! ### Halves -/

theorem roundHalfEven_mul (q : Nat) {den : Nat} (hden : 0 < den) :
    roundHalfEven (q * den) den = q := by
  unfold roundHalfEven
  have hne : ¬ (0 : Nat) = den := by omega
  simp [Nat.mul_div_cancel _ hden, hne]

/-- Of one denominator, larger fractions are rounded to larger integers. -/
theorem roundHalfEven_mono {num num' : Nat} (den : Nat) (h : num ≤ num') :
    roundHalfEven num den ≤ roundHalfEven num' den := by
  have hquotient : num / den ≤ num' / den := Nat.div_le_div_right h
  have hnum := Nat.div_add_mod num den
  have hnum' := Nat.div_add_mod num' den
  unfold roundHalfEven
  rcases Nat.lt_or_eq_of_le hquotient with hlt | heq
  · dsimp only
    split <;> split <;> omega
  · -- with one quotient the larger remainder is rounded up if the smaller one is
    have hremainder : num % den ≤ num' % den := by
      rw [heq] at hnum
      omega
    simp only [heq, Bool.or_eq_true, Bool.and_eq_true, decide_eq_true_eq, beq_iff_eq]
    split <;> split <;> omega

/-! ### Significands -/

/-- The significand of an integer whose leading bit is that of `2 ^ e`. -/
def significandAt (e n : Nat) : Nat := roundHalfEven (n * 2 ^ (52 - e)) (2 ^ (e - 52))

theorem significandAt_mono (e : Nat) {m n : Nat} (h : m ≤ n) :
    significandAt e m ≤ significandAt e n :=
  roundHalfEven_mono _ (Nat.mul_le_mul_right _ h)

theorem significandAt_two_pow (e k : Nat) (h : e ≤ k) :
    significandAt e (2 ^ k) = 2 ^ (k - e + 52) := by
  have hsplit : 2 ^ k * 2 ^ (52 - e) = 2 ^ (k - e + 52) * 2 ^ (e - 52) := by
    rw [← Nat.pow_add, ← Nat.pow_add]
    congr 1
    omega
  rw [significandAt, hsplit, roundHalfEven_mul _ (Nat.two_pow_pos _)]

/-- A significand has 53 bits, or it is the next power of two. -/
theorem significandAt_bounds {n : Nat} (hn : n ≠ 0) :
    2 ^ 52 ≤ significandAt n.log2 n ∧ significandAt n.log2 n ≤ 2 ^ 53 := by
  have hlow := significandAt_mono n.log2 (Nat.log2_self_le hn)
  have hhigh := significandAt_mono n.log2 (@Nat.lt_log2_self n).le
  rw [significandAt_two_pow _ _ (Nat.le_refl _), Nat.sub_self] at hlow
  rw [significandAt_two_pow _ _ (Nat.le_succ _), Nat.succ_sub (Nat.le_refl _),
    Nat.sub_self] at hhigh
  exact ⟨hlow, hhigh⟩

/-- Up to 53 bits nothing is rounded. -/
theorem significandAt_of_le {e : Nat} (he : e ≤ 52) (n : Nat) :
    significandAt e n = n * 2 ^ (52 - e) := by
  have hexact := roundHalfEven_mul (n * 2 ^ (52 - e)) Nat.one_pos
  rw [Nat.mul_one] at hexact
  rw [significandAt, Nat.sub_eq_zero_of_le he]
  exact hexact

/-! ### Magnitudes -/

theorem leadingExponent_one {n : Nat} (hn : n ≠ 0) : leadingExponent n 1 = n.log2 := by
  have hupper : (n.log2 : Int) - (Nat.log2 1 : Nat) = (n.log2 : Nat) := by
    rw [show Nat.log2 1 = 0 from rfl]
    omega
  have hreaches : reachesPower n 1 (n.log2 : Nat) = true := by
    show decide (1 * Nat.pow 2 n.log2 ≤ n) = true
    rw [Nat.one_mul]
    exact decide_eq_true (Nat.log2_self_le hn)
  unfold leadingExponent
  simp only [hupper, hreaches, cond_true]

theorem magnitude_ofMagnitude {m : Nat} (h : m < 2 ^ 63) :
    (ofMagnitude false m).magnitude = m ∧ (ofMagnitude false m).isNegative = false := by
  have hbits : (ofMagnitude false m).bits.toNat = m := by
    simp only [ofMagnitude, UInt64.toNat_ofNat', Bool.false_eq_true, if_false]
    omega
  simp only [magnitude, isNegative, hbits, Nat.pow_eq]
  exact ⟨Nat.mod_eq_of_lt h, decide_eq_false (by omega)⟩

/-- The exponent and the significand of a positive integer, up to infinity. -/
theorem magnitude_ofNat {n : Nat} (hn : n ≠ 0) :
    (ofNat n).magnitude
        = Nat.min ((n.log2 + 1022) * 2 ^ 52 + significandAt n.log2 n) infinityMagnitude ∧
      (ofNat n).isNegative = false := by
  have hscale : scaleFor n 1 = n.log2 + 1022 := by
    unfold scaleFor
    rw [leadingExponent_one hn]
    omega
  -- one of the two powers is that of zero
  have hround : (if n.log2 + 1022 ≤ 1074 then
        roundHalfEven (n * Nat.pow 2 (1074 - (n.log2 + 1022))) 1
      else roundHalfEven n (1 * Nat.pow 2 (n.log2 + 1022 - 1074))) = significandAt n.log2 n := by
    unfold significandAt
    split_ifs with hsmall
    · rw [show n.log2 - 52 = 0 by omega, show 1074 - (n.log2 + 1022) = 52 - n.log2 by omega]
      rfl
    · rw [show 52 - n.log2 = 0 by omega, show n.log2 + 1022 - 1074 = n.log2 - 52 by omega,
        Nat.one_mul, Nat.pow_zero, Nat.mul_one]
      rfl
  have hnumber : ofNat n = ofMagnitude false
      (Nat.min ((n.log2 + 1022) * 2 ^ 52 + significandAt n.log2 n) infinityMagnitude) := by
    unfold ofNat ofRatio
    rw [if_neg hn, hscale]
    dsimp only
    rw [hround]
    rfl
  rw [hnumber]
  refine magnitude_ofMagnitude (Nat.lt_of_le_of_lt (Nat.min_le_right _ _) ?_)
  decide

theorem isAbsolute_ofNat (n : Nat) : (ofNat n).IsAbsolute := by
  rcases Nat.eq_zero_or_pos n with rfl | hpos
  · exact ⟨by decide, by decide⟩
  · obtain ⟨hmagnitude, hsign⟩ := magnitude_ofNat hpos.ne'
    refine ⟨hsign, decide_eq_false (Nat.not_lt.mpr ?_)⟩
    rw [hmagnitude]
    exact Nat.min_le_right _ _

/-- Larger integers without a sign have larger magnitudes. -/
theorem magnitude_ofNat_mono {m n : Nat} (h : m ≤ n) :
    (ofNat m).magnitude ≤ (ofNat n).magnitude := by
  rcases Nat.eq_zero_or_pos m with rfl | hpos
  · exact Nat.zero_le _
  have hm : m ≠ 0 := hpos.ne'
  have hn : n ≠ 0 := by omega
  rw [(magnitude_ofNat hm).1, (magnitude_ofNat hn).1]
  have hbits : (m.log2 + 1022) * 2 ^ 52 + significandAt m.log2 m
      ≤ (n.log2 + 1022) * 2 ^ 52 + significandAt n.log2 n := by
    have hlog : m.log2 ≤ n.log2 := (Nat.le_log2 hn).mpr ((Nat.log2_self_le hm).trans h)
    rcases Nat.lt_or_eq_of_le hlog with hlt | heq
    · -- the significand of `m` comes to one more exponent at most
      have hlow := (significandAt_bounds hn).1
      have hhigh := (significandAt_bounds hm).2
      omega
    · rw [heq]
      exact Nat.add_le_add_left (significandAt_mono n.log2 h) _
  exact le_inf (inf_le_of_left_le hbits) inf_le_right

/-! ### Ranks -/

theorem rank_neg (x : Binary64) : x.neg.rank = -x.rank := by
  unfold rank
  rw [magnitude_neg, isNegative_neg]
  cases x.isNegative <;> simp

theorem isNaN_ofInt (n : Int) : (ofInt n).isNaN = false := by
  cases n with
  | ofNat m => exact (isAbsolute_ofNat m).isNaN
  | negSucc m =>
    show decide (infinityMagnitude < (ofNat (m + 1)).neg.magnitude) = false
    rw [magnitude_neg]
    exact (isAbsolute_ofNat (m + 1)).isNaN

/-- Integers of any size are rounded to numbers in their order. -/
theorem rank_ofInt_mono {m n : Int} (h : m ≤ n) : (ofInt m).rank ≤ (ofInt n).rank := by
  have hnat : ∀ k : Nat, (ofNat k).rank = (ofNat k).magnitude :=
    fun k => (isAbsolute_ofNat k).rank_eq
  have hneg : ∀ k : Nat, (ofInt (Int.negSucc k)).rank = -((ofNat (k + 1)).magnitude : Int) := by
    intro k
    rw [ofInt, rank_neg, hnat]
  cases m with
  | ofNat i =>
    cases n with
    | ofNat j =>
      rw [ofInt, ofInt, hnat, hnat]
      exact Int.ofNat_le.mpr (magnitude_ofNat_mono (Int.ofNat_le.mp h))
    | negSucc j =>
      have hi := Int.ofNat_eq_natCast i
      omega
  | negSucc i =>
    cases n with
    | ofNat j =>
      rw [hneg, ofInt, hnat]
      omega
    | negSucc j =>
      have hmono := @magnitude_ofNat_mono (j + 1) (i + 1) (by omega)
      rw [hneg, hneg]
      omega

end PropertyGraph.Binary64
