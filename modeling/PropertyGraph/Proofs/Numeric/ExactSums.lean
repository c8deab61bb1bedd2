import Mathlib.Algebra.BigOperators.Group.List.Basic
import Mathlib.Algebra.Order.BigOperators.Group.List
import Mathlib.Data.List.Perm.Subperm
import Mathlib.Data.Rat.Cast.Order
import PropertyGraph.Proofs.Numeric.Addition
import PropertyGraph.Proofs.Numeric.Rounding

/-!
# Exact sums

Numbers have `ExactSums` if adding up some of them, from left to right, never rounds.  It is enough
that the sums are values of numbers (`sum_spec`), and then their order does not matter
(`ExactSums.isValue`).  Whole numbers that come to less than `2 ^ 53` have exact sums
(`exactSums_ofNat`); up to that bound an integer of either sign is a number (`ofInt_spec`).
-/

namespace PropertyGraph.Binary64

/-- The sum of any of the numbers, added up from left to right, is exact. -/
def ExactSums (xs : List Binary64) : Prop :=
  ∀ ys, ys.Sublist xs → (sum ys).isFinite = true ∧ (sum ys).value = (ys.map value).sum

variable {xs ys : List Binary64}

theorem ExactSums.isValue (h : ExactSums xs) (hys : ys.Subperm xs) :
    IsValue (ys.map value).sum := by
  obtain ⟨zs, hperm, hsublist⟩ := hys
  obtain ⟨hfinite, hvalue⟩ := h zs hsublist
  exact ⟨sum zs, hfinite, hvalue.trans (hperm.map value).sum_eq⟩

/-- A sum is exact if it is the value of a number all along. -/
theorem sum_spec (hxs : ∀ x ∈ xs, x.isFinite = true)
    (h : ∀ ys : List Binary64, ys.IsPrefix xs → IsValue (ys.map value).sum) :
    (sum xs).isFinite = true ∧ (sum xs).value = (xs.map value).sum := by
  induction xs using List.reverseRecOn with
  | nil =>
    have hunits : negativeZero.units = 0 := by decide
    refine ⟨by decide, ?_⟩
    show negativeZero.value = 0
    rw [value_eq_iff, hunits, Int.cast_zero, zero_mul]
  | append_singleton xs x ih =>
    obtain ⟨hfinite, hvalue⟩ := ih (fun y hy => hxs y (List.mem_append_left _ hy))
      fun ys hys => h ys (hys.trans (List.prefix_append xs [x]))
    have hx : x.isFinite = true := hxs x (List.mem_append_right _ (List.mem_singleton_self x))
    have hsum : ((xs ++ [x]).map value).sum = (sum xs).value + x.value := by
      simp [hvalue]
    have hlast := h (xs ++ [x]) (List.prefix_refl _)
    rw [hsum] at hlast ⊢
    rw [show sum (xs ++ [x]) = (sum xs).add x by simp [sum]]
    exact value_add hfinite hx hlast

theorem ExactSums.perm (h : ExactSums xs) (hxs : ∀ x ∈ xs, x.isFinite = true)
    (hperm : ys.Perm xs) : ExactSums ys := by
  intro zs hzs
  refine sum_spec (fun x hx => hxs x (hperm.subset (hzs.subset hx))) fun ws hws => ?_
  exact h.isValue ((hws.sublist.trans hzs).subperm.trans hperm.subperm)

/-! ### Whole numbers -/

theorem ofNat_spec {n : Nat} (h : n < 2 ^ 53) :
    (ofNat n).isFinite = true ∧ (ofNat n).value = n := by
  rcases Nat.eq_zero_or_pos n with rfl | hpos
  · exact ⟨isFinite_zero, value_zero⟩
  have hlog : n.log2 < 53 := (Nat.log2_lt hpos.ne').mpr h
  obtain ⟨hrounded, hsign⟩ := magnitude_ofNat hpos.ne'
  rw [significandAt_of_le (show n.log2 ≤ 52 by omega) n] at hrounded
  obtain ⟨m, hm⟩ : ∃ m, m = n * 2 ^ (52 - n.log2) := ⟨_, rfl⟩
  have hlow : 2 ^ 52 ≤ m := by
    have hbounds := (significandAt_bounds hpos.ne').1
    rwa [significandAt_of_le (show n.log2 ≤ 52 by omega) n, ← hm] at hbounds
  have hhigh : m < 2 ^ 53 := by
    have hself := Nat.mul_lt_mul_of_pos_right (@Nat.lt_log2_self n) (Nat.two_pow_pos (52 - n.log2))
    rwa [← Nat.pow_add, show n.log2 + 1 + (52 - n.log2) = 53 by omega, ← hm] at hself
  have hmagnitude : (ofNat n).magnitude = (n.log2 + 1022) * 2 ^ 52 + m := by
    rw [hrounded, ← hm]
    exact Nat.min_eq_left (by rw [infinityMagnitude]; omega)
  refine ⟨decide_eq_true (by rw [hmagnitude, infinityMagnitude]; omega), value_eq_iff.mpr ?_⟩
  obtain ⟨e, he⟩ : ∃ e, e = 52 - n.log2 + (n.log2 + 1022) := ⟨_, rfl⟩
  rw [units_eq, hsign, hmagnitude, unitsOfMagnitude_eq hhigh (Or.inl hlow), hm, Nat.mul_assoc,
    ← Nat.pow_add, if_neg Bool.false_ne_true, Int.cast_natCast, ← he, show 1074 = e by omega]
  push_cast
  rfl

theorem ofNat_spec_of_le {n : Nat} (h : n ≤ 2 ^ 53) :
    (ofNat n).isFinite = true ∧ (ofNat n).value = n := by
  rcases Nat.lt_or_eq_of_le h with hlt | rfl
  · exact ofNat_spec hlt
  · have hfinite : (ofNat (2 ^ 53)).isFinite = true := by decide +kernel
    have hunits : (ofNat (2 ^ 53)).units = 2 ^ 53 * 2 ^ 1074 := by decide +kernel
    refine ⟨hfinite, value_eq_iff.mpr ?_⟩
    rw [hunits]
    norm_num

/-- The integers up to `2 ^ 53` in absolute value are numbers. -/
theorem ofInt_spec {n : Int} (hlow : -2 ^ 53 ≤ n) (hhigh : n ≤ 2 ^ 53) :
    (ofInt n).isFinite = true ∧ (ofInt n).value = n := by
  cases n with
  | ofNat m =>
    have hm : m ≤ 2 ^ 53 := by
      have := Int.ofNat_eq_natCast m
      omega
    obtain ⟨hfinite, hvalue⟩ := ofNat_spec_of_le hm
    exact ⟨hfinite, hvalue.trans (by simp)⟩
  | negSucc m =>
    have hm : m + 1 ≤ 2 ^ 53 := by omega
    obtain ⟨hfinite, hvalue⟩ := ofNat_spec_of_le hm
    show (ofNat (m + 1)).neg.isFinite = true ∧ (ofNat (m + 1)).neg.value = _
    rw [isFinite_neg, value_neg, hvalue, Int.cast_negSucc]
    exact ⟨hfinite, rfl⟩

/-- Whole numbers that come to less than `2 ^ 53` have exact sums. -/
theorem exactSums_ofNat {ns : List Nat} (h : ns.sum < 2 ^ 53) : ExactSums (ns.map ofNat) := by
  intro ys hys
  obtain ⟨ms, hms, rfl⟩ := List.sublist_map_iff.mp hys
  have hvalues : ∀ ks : List Nat, ks.sum < 2 ^ 53 →
      ((ks.map ofNat).map value).sum = (ks.sum : Nat) := by
    intro ks hks
    induction ks with
    | nil => rfl
    | cons k ks ih =>
      rw [List.sum_cons] at hks
      rw [List.map_cons, List.map_cons, List.sum_cons, List.sum_cons, ih (by omega),
        (ofNat_spec (show k < 2 ^ 53 by omega)).2, Nat.cast_add]
  have hle : ms.sum < 2 ^ 53 := (hms.sum_le_sum fun _ _ => Nat.zero_le _).trans_lt h
  refine sum_spec (fun x hx => ?_) fun zs hzs => ?_
  · obtain ⟨k, hk, rfl⟩ := List.mem_map.mp hx
    exact (ofNat_spec ((List.single_le_sum (fun _ _ => Nat.zero_le _) k hk).trans_lt hle)).1
  · obtain ⟨ks, hks, rfl⟩ := List.prefix_map_iff.mp hzs
    have hks' : ks.sum < 2 ^ 53 := (hks.sublist.sum_le_sum fun _ _ => Nat.zero_le _).trans_lt hle
    obtain ⟨hfinite, hvalue⟩ := ofNat_spec hks'
    exact ⟨ofNat ks.sum, hfinite, hvalue.trans (hvalues ks hks').symm⟩

end PropertyGraph.Binary64
