import Mathlib.Algebra.Order.Field.Rat
import Mathlib.Order.Monotone.Basic
import Mathlib.Tactic.Positivity
import PropertyGraph.Numeric.CostNumber

/-!
# The values of binary numbers

All finite numbers of the 64-bit format are multiples of the least positive one, `2 ^ (-1074)`.
`units` says how many times a number is this one, and `value` is the rational number that comes of
it.  Both are meant for finite numbers only.

Numbers are compared by their values: `value_le_of_totalCompare` says this of the total order,
`max_spec` of the larger of two numbers, and `lastMaximum?_spec` and `maximum_spec` of lists.
-/

namespace PropertyGraph

namespace Binary64

/-! ### Values -/

/-- A finite number in units of the least positive one. -/
def units (x : Binary64) : Int :=
  if x.isNegative then -(x.significand * 2 ^ x.scale : Nat) else (x.significand * 2 ^ x.scale : Nat)

/-- The value of a finite number. -/
def value (x : Binary64) : Rat := x.units / 2 ^ 1074

theorem natAbs_units (x : Binary64) : x.units.natAbs = x.significand * 2 ^ x.scale := by
  unfold units
  split
  · rw [Int.natAbs_neg, Int.natAbs_natCast]
  · rw [Int.natAbs_natCast]

theorem value_eq_iff {x : Binary64} {v : Rat} : x.value = v ↔ (x.units : Rat) = v * 2 ^ 1074 :=
  div_eq_iff (by positivity)

theorem value_le_iff {x y : Binary64} : x.value ≤ y.value ↔ x.units ≤ y.units := by
  unfold value
  rw [div_le_div_iff_of_pos_right (by positivity), Int.cast_le]

@[simp]
theorem value_zero : zero.value = 0 := by
  have hunits : zero.units = 0 := by decide
  rw [value_eq_iff, hunits, Int.cast_zero, zero_mul]

theorem isFinite_zero : zero.isFinite = true := by decide

theorem significand_lt (x : Binary64) : x.significand < 2 ^ 53 := by
  have hfraction : x.magnitude % 2 ^ 52 < 2 ^ 52 := Nat.mod_lt _ (Nat.two_pow_pos 52)
  simp only [significand, Nat.pow_eq]
  split <;> omega

theorem scale_le {x : Binary64} (h : x.isFinite = true) : x.scale ≤ 2045 := by
  have hmagnitude : x.magnitude < 2047 * 2 ^ 52 := of_decide_eq_true h
  simp only [scale, Nat.pow_eq]
  omega

theorem isNaN_of_isFinite {x : Binary64} (h : x.isFinite = true) : x.isNaN = false := by
  have hlow : x.magnitude < infinityMagnitude := of_decide_eq_true h
  exact decide_eq_false (by omega)

/-! ### Order -/

/-- The absolute value, in units, of the finite number of a magnitude. -/
def unitsOfMagnitude (n : Nat) : Nat :=
  (if n / 2 ^ 52 = 0 then n % 2 ^ 52 else n % 2 ^ 52 + 2 ^ 52) * 2 ^ (n / 2 ^ 52 - 1)

theorem units_eq (x : Binary64) :
    x.units = if x.isNegative then -(unitsOfMagnitude x.magnitude : Int)
      else unitsOfMagnitude x.magnitude :=
  rfl

/-- A magnitude is a scale and a significand, where the significand has 53 bits or the scale is the
least one. -/
theorem unitsOfMagnitude_eq {m k : Nat} (hm : m < 2 ^ 53) (hnormal : 2 ^ 52 ≤ m ∨ k = 0) :
    unitsOfMagnitude (k * 2 ^ 52 + m) = m * 2 ^ k := by
  unfold unitsOfMagnitude
  by_cases hlow : m < 2 ^ 52
  · obtain rfl : k = 0 := by omega
    rw [if_pos (by omega), Nat.zero_mul, Nat.zero_add, Nat.mod_eq_of_lt hlow,
      Nat.div_eq_of_lt hlow]
  · have hexponent : (k * 2 ^ 52 + m) / 2 ^ 52 = k + 1 := by omega
    have hfraction : (k * 2 ^ 52 + m) % 2 ^ 52 + 2 ^ 52 = m := by omega
    rw [hexponent, if_neg (Nat.succ_ne_zero k), hfraction, Nat.add_sub_cancel]

theorem unitsOfMagnitude_strictMono : StrictMono unitsOfMagnitude := by
  refine strictMono_nat_of_lt_succ fun n => ?_
  unfold unitsOfMagnitude
  have hfraction : n % 2 ^ 52 < 2 ^ 52 := Nat.mod_lt _ (Nat.two_pow_pos 52)
  by_cases hcarry : n % 2 ^ 52 + 1 = 2 ^ 52
  · -- the next number is the first one of the next exponent
    have hexponent : (n + 1) / 2 ^ 52 = n / 2 ^ 52 + 1 := by omega
    have hnext : (n + 1) % 2 ^ 52 = 0 := by omega
    rw [hexponent, hnext, if_neg (Nat.succ_ne_zero _), Nat.zero_add, Nat.add_sub_cancel]
    split_ifs with hzero
    · rw [hzero, Nat.zero_sub]
      omega
    · obtain ⟨e, he⟩ := Nat.exists_eq_succ_of_ne_zero hzero
      rw [he, Nat.succ_sub_one, Nat.pow_succ 2 e, Nat.mul_comm (2 ^ e), ← Nat.mul_assoc]
      exact Nat.mul_lt_mul_of_pos_right (by omega) (Nat.two_pow_pos e)
  · have hexponent : (n + 1) / 2 ^ 52 = n / 2 ^ 52 := by omega
    have hnext : (n + 1) % 2 ^ 52 = n % 2 ^ 52 + 1 := by omega
    rw [hexponent, hnext]
    refine Nat.mul_lt_mul_of_pos_right ?_ (Nat.two_pow_pos _)
    split <;> omega

theorem units_lt_of_rank_lt {x y : Binary64} (h : x.rank < y.rank) : x.units < y.units := by
  unfold rank at h
  rw [units_eq, units_eq]
  have hmono : ∀ {m n : Nat}, m < n → unitsOfMagnitude m < unitsOfMagnitude n :=
    fun hlt => unitsOfMagnitude_strictMono hlt
  split_ifs at h ⊢
  · have := hmono (show y.magnitude < x.magnitude by omega)
    omega
  · -- one of them is not zero
    rcases Nat.eq_zero_or_pos x.magnitude with hx | hx
    · have := hmono (show 0 < y.magnitude by omega)
      omega
    · have := hmono hx
      omega
  · omega
  · have := hmono (show x.magnitude < y.magnitude by omega)
    omega

theorem units_le_of_rank_le {x y : Binary64} (h : x.rank ≤ y.rank) : x.units ≤ y.units := by
  rcases Int.lt_or_eq_of_le h with hlt | heq
  · exact (units_lt_of_rank_lt hlt).le
  · -- the zeros have one rank and the same units
    unfold rank at heq
    rw [units_eq, units_eq]
    split_ifs at heq ⊢
    · have hmagnitude : x.magnitude = y.magnitude := by omega
      rw [hmagnitude]
    · have hx : x.magnitude = 0 := by omega
      have hy : y.magnitude = 0 := by omega
      rw [hx, hy]
      decide
    · have hx : x.magnitude = 0 := by omega
      have hy : y.magnitude = 0 := by omega
      rw [hx, hy]
      decide
    · have hmagnitude : x.magnitude = y.magnitude := by omega
      rw [hmagnitude]

theorem rank_le_of_totalRank_le {x y : Binary64} (h : x.totalRank ≤ y.totalRank) :
    x.rank ≤ y.rank := by
  unfold totalRank at h
  unfold rank
  split_ifs at h ⊢ <;> omega

theorem value_le_of_totalCompare {x y : Binary64} (h : totalCompare x y ≠ .gt) :
    x.value ≤ y.value := by
  refine value_le_iff.mpr (units_le_of_rank_le (rank_le_of_totalRank_le ?_))
  exact Int.not_lt.mp fun hlt => h (Int.compare_eq_gt.mpr hlt)

theorem value_le_of_totalCompare_eq_gt {x y : Binary64} (h : totalCompare x y = .gt) :
    y.value ≤ x.value := by
  refine value_le_iff.mpr (units_le_of_rank_le (rank_le_of_totalRank_le ?_))
  exact (Int.compare_eq_gt.mp h).le

/-- The larger of two finite numbers is one of them and not below the other. -/
theorem max_spec {x y : Binary64} (hx : x.isFinite = true) (hy : y.isFinite = true) :
    (max x y = x ∨ max x y = y) ∧ x.value ≤ (max x y).value ∧ y.value ≤ (max x y).value := by
  unfold max
  rw [isNaN_of_isFinite hx, isNaN_of_isFinite hy, if_neg Bool.false_ne_true,
    if_neg Bool.false_ne_true]
  split_ifs with hlt
  · exact ⟨Or.inr rfl, value_le_iff.mpr (units_le_of_rank_le hlt.le), le_refl _⟩
  · exact ⟨Or.inl rfl, le_refl _, value_le_iff.mpr (units_le_of_rank_le (not_lt.mp hlt))⟩

end Binary64

namespace CostNumber

open Binary64 (max_spec)

theorem lastMaximum?_eq_none_iff {α : Type} (measure : α → Binary64) {xs : List α} :
    lastMaximum? measure xs = none ↔ xs = [] := by
  cases xs with
  | nil => exact ⟨fun _ => rfl, fun _ => rfl⟩
  | cons x rest =>
    unfold lastMaximum?
    refine ⟨fun h => ?_, fun h => (List.cons_ne_nil x rest h).elim⟩
    split at h
    · cases h
    · split_ifs at h

/-- The last largest of some elements is one of them, and none has a larger measure. -/
theorem lastMaximum?_spec {α : Type} (measure : α → Binary64) {xs : List α} {m : α}
    (h : lastMaximum? measure xs = some m) :
    m ∈ xs ∧ ∀ x ∈ xs, (measure x).value ≤ (measure m).value := by
  induction xs generalizing m with
  | nil => cases h
  | cons x rest ih =>
    unfold lastMaximum? at h
    rw [List.forall_mem_cons]
    cases hrest : lastMaximum? measure rest with
    | none =>
      rw [hrest] at h
      obtain rfl := Option.some.inj h
      rw [(lastMaximum?_eq_none_iff measure).mp hrest]
      exact ⟨List.mem_singleton_self x, le_refl _, fun y hy => (List.not_mem_nil hy).elim⟩
    | some y =>
      obtain ⟨hmem, hmax⟩ := ih hrest
      rw [hrest] at h
      simp only at h
      split_ifs at h with hgt
      · obtain rfl := Option.some.inj h
        have hle := Binary64.value_le_of_totalCompare_eq_gt hgt
        exact ⟨List.mem_cons_self, le_refl _, fun z hz => (hmax z hz).trans hle⟩
      · obtain rfl := Option.some.inj h
        have hle := Binary64.value_le_of_totalCompare hgt
        exact ⟨List.mem_cons_of_mem x hmem, hle, hmax⟩

theorem foldl_max_spec {a : Binary64} {xs : List Binary64} (ha : a.isFinite = true)
    (h : ∀ x ∈ xs, x.isFinite = true) :
    (xs.foldl max a = a ∨ xs.foldl max a ∈ xs) ∧ a.value ≤ (xs.foldl max a).value ∧
      ∀ x ∈ xs, x.value ≤ (xs.foldl max a).value := by
  induction xs generalizing a with
  | nil => exact ⟨Or.inl rfl, le_refl _, fun x hx => (List.not_mem_nil hx).elim⟩
  | cons y rest ih =>
    rw [List.forall_mem_cons] at h
    obtain ⟨hchoice, hale, hyle⟩ := max_spec ha h.1
    have hfinite : (a.max y).isFinite = true := by
      rcases hchoice with heq | heq
      · rw [heq, ha]
      · rw [heq, h.1]
    obtain ⟨hmem, hle, hmax⟩ := ih hfinite h.2
    rw [List.foldl_cons, List.forall_mem_cons]
    refine ⟨?_, hale.trans hle, hyle.trans hle, hmax⟩
    rcases hmem with heq | hmem
    · rcases hchoice with hchoice | hchoice
      · exact Or.inl (heq.trans hchoice)
      · exact Or.inr (List.mem_cons.mpr (Or.inl (heq.trans hchoice)))
    · exact Or.inr (List.mem_cons_of_mem y hmem)

/-- The largest of some finite numbers is one of them or zero, and neither zero nor one of them is
above it. -/
theorem maximum_spec {xs : List Binary64} (h : ∀ x ∈ xs, x.isFinite = true) :
    (maximum xs = .zero ∨ maximum xs ∈ xs) ∧ 0 ≤ (maximum xs).value ∧
      ∀ x ∈ xs, x.value ≤ (maximum xs).value := by
  obtain ⟨hmem, hle, hmax⟩ := foldl_max_spec Binary64.isFinite_zero h
  rw [Binary64.value_zero] at hle
  exact ⟨hmem, hle, hmax⟩

end CostNumber

end PropertyGraph
