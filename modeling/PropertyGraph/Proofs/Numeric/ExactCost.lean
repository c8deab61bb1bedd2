import Mathlib.Analysis.SpecialFunctions.Log.Base
import PropertyGraph.Numeric.CostNumber

/-!
# Exact costs

Sums of costs depend on the order of adding where numbers are rounded.  `ExactAddition` says that
they do not; real numbers are costs of this kind.
-/

namespace PropertyGraph

namespace CostNumber

/-- The laws of adding without rounding. -/
structure ExactAddition (κ : Type) [CostNumber κ] : Prop where
  add_assoc : ∀ a b c : κ, add (add a b) c = add a (add b c)
  add_comm : ∀ a b : κ, add a b = add b a
  zero_add : ∀ a : κ, add zero a = a
  emptySum_eq : (emptySum : κ) = zero

namespace ExactAddition

variable {κ : Type} [CostNumber κ] (exact : ExactAddition κ)
include exact

theorem foldl_add (a : κ) (xs : List κ) : xs.foldl add a = add a (sum xs) := by
  have hzero : ∀ b : κ, add b zero = b := fun b => by rw [exact.add_comm, exact.zero_add]
  have hfold : ∀ (xs : List κ) (a : κ), xs.foldl add a = add a (xs.foldl add zero) := by
    intro xs
    induction xs with
    | nil => exact fun a => (hzero a).symm
    | cons x rest ih =>
      intro a
      rw [List.foldl_cons, List.foldl_cons, ih, ih (add zero x), exact.zero_add, exact.add_assoc]
  rw [sum, exact.emptySum_eq]
  exact hfold xs a

theorem sum_cons (x : κ) (xs : List κ) : sum (x :: xs) = add x (sum xs) := by
  rw [sum, List.foldl_cons, exact.emptySum_eq, exact.zero_add, exact.foldl_add]

theorem sum_append (xs ys : List κ) : sum (xs ++ ys) = add (sum xs) (sum ys) := by
  rw [sum, List.foldl_append, exact.foldl_add]
  rfl

end ExactAddition

end CostNumber

/-! ### Real numbers -/

noncomputable instance : CostNumber ℝ where
  zero := 0
  emptySum := 0
  add a b := a + b
  mul a b := a * b
  div a b := a / b
  ofNat n := n
  half := 1 / 2
  pow a n := a ^ n
  log2 := Real.logb 2
  max := Max.max
  min := Min.min
  compare := Ord.compare
  isPositive x := decide (0 < x)

theorem CostNumber.exactAddition_real : CostNumber.ExactAddition ℝ where
  add_assoc := add_assoc
  add_comm := add_comm
  zero_add := zero_add
  emptySum_eq := rfl

end PropertyGraph
