import Mathlib.Algebra.Order.Field.Rat
import Mathlib.Order.Compare
import PropertyGraph.Proofs.Numeric.Value

/-!
# The order of binary numbers

Numbers are told apart by their ranks, but for the two zeros (`eq_of_rank_eq`), and by their places
in the total order without exception (`eq_of_totalRank_eq`).  Ranks are ordered as the values are,
which both zeros share (`compare_rank`), and so numbers other than NaN are compared by their values
(`partialCompare_eq`).

The largest of several numbers does not depend on the order in which they are listed
(`CostNumber.maximum_perm`).  The larger of two numbers does: of the two zeros it is the first.
But a maximum starts at zero and never goes below it, and numbers without a sign are told by their
ranks, which the maximum takes the largest of (`IsAbsolute.max_spec`).
-/

namespace PropertyGraph

namespace Binary64

variable {x y z : Binary64}

/-! ### Telling numbers apart -/

theorem eq_of_toNat_eq (h : x.bits.toNat = y.bits.toNat) : x = y := by
  obtain ⟨bits⟩ := x
  obtain ⟨bits'⟩ := y
  exact congrArg Binary64.mk (UInt64.toNat_inj.mp h)

theorem rank_eq_zero_iff : x.rank = 0 ↔ x.isZero = true := by
  unfold rank isZero
  rw [decide_eq_true_iff]
  split <;> omega

/-- A number other than the zeros is told by its rank. -/
theorem eq_of_rank_eq (hx : x.rank ≠ 0) (h : x.rank = y.rank) : x = y := by
  apply eq_of_toNat_eq
  have hxlt := x.bits.toNat_lt
  have hylt := y.bits.toNat_lt
  unfold rank isNegative magnitude at hx h
  simp only [decide_eq_true_eq, Nat.pow_eq] at hx h
  split at h <;> split at h <;> omega

/-- A number is told by its place in the total order. -/
theorem eq_of_totalRank_eq (h : x.totalRank = y.totalRank) : x = y := by
  apply eq_of_toNat_eq
  have hxlt := x.bits.toNat_lt
  have hylt := y.bits.toNat_lt
  unfold totalRank isNegative magnitude at h
  simp only [decide_eq_true_eq, Nat.pow_eq] at h
  split at h <;> split at h <;> omega

theorem eq_of_totalCompare_eq (h : totalCompare x y = .eq) : x = y :=
  eq_of_totalRank_eq (Std.LawfulEqOrd.eq_of_compare h)

/-! ### Values -/

theorem value_lt_iff : x.value < y.value ↔ x.units < y.units :=
  lt_iff_lt_of_le_iff_le value_le_iff

/-- Ranks are ordered as the values are.  The infinities count as the powers of two past all finite
numbers (`value_lt_infinity`). -/
theorem compare_rank (x y : Binary64) : compare x.rank y.rank = compare x.value y.value := by
  rcases lt_trichotomy x.rank y.rank with hlt | heq | hgt
  · have hvalue : x.value < y.value := value_lt_iff.mpr (units_lt_of_rank_lt hlt)
    rw [compare_lt_iff_lt.mpr hlt, compare_lt_iff_lt.mpr hvalue]
  · have hvalue : x.value = y.value :=
      le_antisymm (value_le_iff.mpr (units_le_of_rank_le heq.le))
        (value_le_iff.mpr (units_le_of_rank_le heq.ge))
    rw [compare_eq_iff_eq.mpr heq, compare_eq_iff_eq.mpr hvalue]
  · have hvalue : y.value < x.value := value_lt_iff.mpr (units_lt_of_rank_lt hgt)
    rw [compare_gt_iff_gt.mpr hgt, compare_gt_iff_gt.mpr hvalue]

theorem partialCompare_eq (hx : x.isNaN = false) (hy : y.isNaN = false) :
    x.partialCompare y = some (compare x.value y.value) := by
  unfold partialCompare
  rw [hx, hy, ← compare_rank]
  rfl

/-! ### Signs -/

theorem magnitude_lt (x : Binary64) : x.magnitude < 2 ^ 63 := Nat.mod_lt _ (Nat.two_pow_pos 63)

theorem magnitude_neg (x : Binary64) : x.neg.magnitude = x.magnitude := by
  have hlow := x.magnitude_lt
  unfold neg ofMagnitude
  generalize x.magnitude = m at hlow ⊢
  cases x.isNegative with
  | true =>
    simp only [magnitude, Nat.pow_eq, UInt64.toNat_ofNat', Bool.not_true, Bool.false_eq_true,
      if_false]
    omega
  | false =>
    simp only [magnitude, Nat.pow_eq, UInt64.toNat_ofNat', Bool.not_false, if_true]
    omega

theorem isNegative_neg (x : Binary64) : x.neg.isNegative = !x.isNegative := by
  have hlow := x.magnitude_lt
  unfold neg ofMagnitude
  generalize x.magnitude = m at hlow ⊢
  cases x.isNegative with
  | true =>
    simp only [isNegative, Nat.pow_eq, UInt64.toNat_ofNat', Bool.not_true, Bool.false_eq_true,
      if_false]
    exact decide_eq_false (by omega)
  | false =>
    simp only [isNegative, Nat.pow_eq, UInt64.toNat_ofNat', Bool.not_false, if_true]
    exact decide_eq_true (by omega)

theorem isFinite_neg (x : Binary64) : x.neg.isFinite = x.isFinite := by
  unfold isFinite
  rw [magnitude_neg]

theorem value_neg (x : Binary64) : x.neg.value = -x.value := by
  have hunits : x.neg.units = -x.units := by
    rw [units_eq, units_eq, magnitude_neg, isNegative_neg]
    cases x.isNegative <;> simp
  unfold value
  rw [hunits, Int.cast_neg, neg_div]

/-! ### The largest of several numbers -/

/-- A number that is neither negative nor NaN. -/
structure IsAbsolute (x : Binary64) : Prop where
  isNegative : x.isNegative = false
  isNaN : x.isNaN = false

theorem IsAbsolute.rank_eq (hx : x.IsAbsolute) : x.rank = x.magnitude := by
  unfold rank
  simp [hx.isNegative]

/-- Without a sign the zeros are told apart from all numbers by their rank too. -/
theorem IsAbsolute.eq_of_rank_eq (hx : x.IsAbsolute) (hy : y.IsAbsolute) (h : x.rank = y.rank) :
    x = y := by
  apply eq_of_totalRank_eq
  unfold totalRank
  simp only [hx.isNegative, hy.isNegative, Bool.false_eq_true, if_false]
  rwa [hx.rank_eq, hy.rank_eq] at h

theorem isNegative_of_rank_pos (h : 0 < x.rank) : x.isNegative = false := by
  unfold rank at h
  split at h
  · omega
  · next hsign => simpa using hsign

/-- How far a number is above zero, for the maximum: NaN is ignored. -/
def height (x : Binary64) : Int := if x.isNaN then 0 else x.rank

/-- The larger of a number that is neither negative nor NaN and another one. -/
theorem IsAbsolute.max_spec (hx : x.IsAbsolute) (y : Binary64) :
    (max x y).IsAbsolute ∧ (max x y).rank = Max.max x.rank y.height := by
  have hnonneg : 0 ≤ x.rank := by
    rw [hx.rank_eq]
    omega
  unfold max height
  rw [if_neg (by simp [hx.isNaN])]
  cases hy : y.isNaN with
  | true =>
    simp only [if_true]
    exact ⟨hx, by omega⟩
  | false =>
    simp only [Bool.false_eq_true, if_false]
    split_ifs with hlt
    · exact ⟨⟨isNegative_of_rank_pos (by omega), hy⟩, by omega⟩
    · exact ⟨hx, by omega⟩

/-- Of two numbers that raise a maximum either may be first. -/
theorem max_right_comm (hx : x.IsAbsolute) : max (max x y) z = max (max x z) y := by
  obtain ⟨hxy, hrankY⟩ := hx.max_spec y
  obtain ⟨hxz, hrankZ⟩ := hx.max_spec z
  obtain ⟨hleft, hrank⟩ := hxy.max_spec z
  obtain ⟨hright, hrank'⟩ := hxz.max_spec y
  apply hleft.eq_of_rank_eq hright
  rw [hrank, hrank', hrankY, hrankZ]
  omega

end Binary64

namespace CostNumber

open Binary64 (IsAbsolute max_right_comm)

theorem foldl_max_perm {xs ys : List Binary64} (hperm : xs.Perm ys) {a : Binary64}
    (ha : a.IsAbsolute) : xs.foldl Binary64.max a = ys.foldl Binary64.max a := by
  induction hperm generalizing a with
  | nil => rfl
  | cons x _ ih => exact ih (ha.max_spec x).1
  | swap x y rest =>
    rw [List.foldl_cons, List.foldl_cons, List.foldl_cons, List.foldl_cons, max_right_comm ha]
  | trans _ _ ih ih' => exact (ih ha).trans (ih' ha)

/-- The largest of several numbers does not depend on how they are listed. -/
theorem maximum_perm {xs ys : List Binary64} (hperm : xs.Perm ys) : maximum xs = maximum ys :=
  foldl_max_perm hperm ⟨by decide, by decide⟩

end CostNumber

end PropertyGraph
