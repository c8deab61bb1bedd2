import PropertyGraph.Numeric.Decimal

/-!
# Decimal text of integers

`natural?` reads a count below `2 ^ 64` and `int64?` a signed 64-bit integer.  A plus sign is
accepted in both; digits only follow, at least one.
-/

namespace PropertyGraph.Integer

/-- The number that a text of digits alone denotes. -/
def digits? (text : List Char) : Option Nat :=
  if text.isEmpty || !text.all Char.isDigit then none else some (Binary64.ofDigits text)

/-- The count that a text denotes, if it fits in 64 bits. -/
def natural? (text : List Char) : Option Nat :=
  let ds :=
    match text with
    | '+' :: rest => rest
    | rest => rest
  (digits? ds).filter fun n => decide (n < Nat.pow 2 64)

/-- The signed 64-bit integer that a text denotes. -/
def int64? (text : List Char) : Option Int64 :=
  let value? : Option Int :=
    match text with
    | '-' :: rest => (digits? rest).map fun n => -(n : Int)
    | '+' :: rest => (digits? rest).map fun n => (n : Int)
    | rest => (digits? rest).map fun n => (n : Int)
  match value? with
  | some n => if -Int.pow 2 63 ≤ n ∧ n < Int.pow 2 63 then some (Int64.ofInt n) else none
  | none => none

end PropertyGraph.Integer
