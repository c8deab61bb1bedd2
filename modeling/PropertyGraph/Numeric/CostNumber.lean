import PropertyGraph.Numeric.Binary64

/-!
# Numbers to count costs with

Costs are estimated, added and compared in any type with the operations of `CostNumber`.  The
library uses 64-bit floating-point numbers; exact numbers serve to reason about the estimates.
-/

namespace PropertyGraph

class CostNumber (κ : Type) where
  zero : κ
  /-- The sum of no numbers. -/
  emptySum : κ
  add : κ → κ → κ
  mul : κ → κ → κ
  div : κ → κ → κ
  ofNat : Nat → κ
  /-- One half. -/
  half : κ
  pow : κ → Nat → κ
  log2 : κ → κ
  max : κ → κ → κ
  min : κ → κ → κ
  /-- A total order on the numbers. -/
  compare : κ → κ → Ordering
  isPositive : κ → Bool

namespace CostNumber

variable {κ : Type} [CostNumber κ]

/-- The sum of a list from left to right. -/
def sum (xs : List κ) : κ := xs.foldl add emptySum

/-- The largest of a list of numbers, `zero` at least. -/
def maximum (xs : List κ) : κ := xs.foldl max zero

/-- The last of the elements at which a measure is largest. -/
def lastMaximum? {α : Type} (measure : α → κ) : List α → Option α
  | [] => none
  | x :: rest =>
    match lastMaximum? measure rest with
    | none => some x
    | some y => if compare (measure x) (measure y) = .gt then some x else some y

end CostNumber

instance : CostNumber Binary64 where
  zero := .zero
  emptySum := .negativeZero
  add := .add
  mul := .mul
  div := .div
  ofNat := .ofNat
  half := .ofRatio 1 2
  pow := .pow
  log2 := .log2
  max := .max
  min := .min
  compare := Binary64.totalCompare
  isPositive x := x.partialCompare .zero == some .gt

end PropertyGraph
