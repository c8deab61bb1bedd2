/-!
# Binary floating-point numbers

`Binary64` is a number of the 64-bit binary interchange format, kept as its bits.  Its order is
read off the bits: among numbers that are not NaN, `rank` (the signed magnitude) grows with the
value, and both zeros have rank `0`.  So `partialCompare` is the comparison of two integers, and
`totalCompare` refines it to a total order on all bit patterns.

`ofRatio` rounds a nonnegative fraction to the nearest number, ties to the even significand; the
conversions from integers and from decimal text go through it.
-/

namespace PropertyGraph

/-- A number of the 64-bit binary format: a sign bit, eleven exponent bits and 52 fraction bits. -/
structure Binary64 where
  bits : UInt64
deriving DecidableEq

namespace Binary64

/-! ### Classes of numbers -/

/-- The bits without the sign bit. -/
def magnitude (x : Binary64) : Nat := x.bits.toNat % Nat.pow 2 63

/-- The magnitude of the infinities; everything above it is NaN. -/
def infinityMagnitude : Nat := 0x7ff0000000000000

/-- The sign bit is set: negative numbers, `-0` among them. -/
def isNegative (x : Binary64) : Bool := decide (Nat.pow 2 63 ≤ x.bits.toNat)

def isNaN (x : Binary64) : Bool := decide (infinityMagnitude < x.magnitude)

def isInfinite (x : Binary64) : Bool := decide (x.magnitude = infinityMagnitude)

def isFinite (x : Binary64) : Bool := decide (x.magnitude < infinityMagnitude)

/-- Either zero. -/
def isZero (x : Binary64) : Bool := decide (x.magnitude = 0)

/-- The number with a given sign and magnitude. -/
def ofMagnitude (negative : Bool) (magnitude : Nat) : Binary64 :=
  ⟨UInt64.ofNat (if negative then magnitude + Nat.pow 2 63 else magnitude)⟩

def zero : Binary64 := ⟨0⟩

def negativeZero : Binary64 := ofMagnitude true 0

def infinity : Binary64 := ofMagnitude false infinityMagnitude

def nan : Binary64 := ofMagnitude false 0x7ff8000000000000

def neg (x : Binary64) : Binary64 := ofMagnitude (!x.isNegative) x.magnitude

/-- The significand `m` of a finite number of absolute value `m * 2 ^ x.exponent`. -/
def significand (x : Binary64) : Nat :=
  let fraction := x.magnitude % Nat.pow 2 52
  if x.magnitude / Nat.pow 2 52 = 0 then fraction else fraction + Nat.pow 2 52

/-- How far the exponent lies above the least one: a finite number has the absolute value
`x.significand * 2 ^ (x.scale - 1074)`. -/
def scale (x : Binary64) : Nat := x.magnitude / Nat.pow 2 52 - 1

/-! ### Order -/

/-- The magnitude with the sign: it grows with the value, and both zeros have rank `0`. -/
def rank (x : Binary64) : Int :=
  if x.isNegative then -(x.magnitude : Int) else x.magnitude

/-- The order of the values; NaN compares with nothing. -/
def partialCompare (x y : Binary64) : Option Ordering :=
  if x.isNaN || y.isNaN then none else some (compare x.rank y.rank)

/-- Equality of values: the zeros are equal, and NaN is not equal to itself. -/
def equals (x y : Binary64) : Bool := x.partialCompare y == some .eq

/-- The place of a bit pattern in the total order: `-NaN < -∞ < … < -0 < 0 < … < ∞ < NaN`. -/
def totalRank (x : Binary64) : Int :=
  if x.isNegative then -(x.magnitude : Int) - 1 else x.magnitude

/-- The total order on all bit patterns, which puts `-0` below `0`. -/
def totalCompare (x y : Binary64) : Ordering := compare x.totalRank y.totalRank

/-- The larger of two numbers; of a number and NaN, the number. -/
def max (x y : Binary64) : Binary64 :=
  if x.isNaN then y
  else if y.isNaN then x
  else if x.rank < y.rank then y else x

/-- The smaller of two numbers; of a number and NaN, the number. -/
def min (x y : Binary64) : Binary64 :=
  if x.isNaN then y
  else if y.isNaN then x
  else if y.rank < x.rank then y else x

/-! ### Rounding -/

/-- `num / den` to the nearest integer, a half going to the even one. -/
def roundHalfEven (num den : Nat) : Nat :=
  let quotient := num / den
  let doubled := 2 * (num % den)
  if den < doubled || (doubled == den && quotient % 2 == 1) then quotient + 1 else quotient

/-- `2 ^ e ≤ num / den`. -/
def reachesPower (num den : Nat) : Int → Bool
  | .ofNat e => decide (den * Nat.pow 2 e ≤ num)
  | .negSucc e => decide (den ≤ num * Nat.pow 2 (e + 1))

/-- The exponent of the leading bit of a positive fraction: `2 ^ e ≤ num / den < 2 ^ (e + 1)`. -/
def leadingExponent (num den : Nat) : Int :=
  -- The difference of the bit lengths is `e` or `e + 1`; one comparison settles which.
  let upper : Int := (num.log2 : Int) - den.log2
  bif reachesPower num den upper then upper else upper - 1

/-- The scale at which `num / den` has a significand of 53 bits, or the least scale. -/
def scaleFor (num den : Nat) : Nat := (leadingExponent num den - 52 + 1074).toNat

/-- The nearest number to `num / den`, ties to the even significand; `∞` beyond the largest. -/
def ofRatio (num den : Nat) : Binary64 :=
  if num = 0 then zero
  else
    let scale := scaleFor num den
    let rounded :=
      if scale ≤ 1074 then roundHalfEven (num * Nat.pow 2 (1074 - scale)) den
      else roundHalfEven num (den * Nat.pow 2 (scale - 1074))
    -- The carry of a significand that rounds up to `2 ^ 53` moves into the exponent.
    ofMagnitude false (Nat.min (scale * Nat.pow 2 52 + rounded) infinityMagnitude)

def ofNat (n : Nat) : Binary64 := ofRatio n 1

/-- The nearest number to an integer; zero is positive. -/
def ofInt : Int → Binary64
  | .ofNat n => ofNat n
  | .negSucc n => (ofNat (n + 1)).neg

/-! ### Integer parts -/

/-- The absolute value of a finite number, with its fraction cut off. -/
def truncatedMagnitude (x : Binary64) : Nat :=
  if 1074 ≤ x.scale then x.significand * Nat.pow 2 (x.scale - 1074)
  else x.significand / Nat.pow 2 (1074 - x.scale)

/-- A finite number without a fraction. -/
def isIntegral (x : Binary64) : Bool :=
  x.isFinite && (decide (1074 ≤ x.scale) || x.significand % Nat.pow 2 (1074 - x.scale) == 0)

/-- The integer part, held within the bounds of a 64-bit integer; NaN gives `0`. -/
def toInt64 (x : Binary64) : Int64 :=
  if x.isNaN then 0
  else if x.isNegative then
    if x.isFinite && x.truncatedMagnitude ≤ Nat.pow 2 63 then
      Int64.ofInt (-(x.truncatedMagnitude : Int))
    else Int64.minValue
  else
    if x.isFinite && x.truncatedMagnitude < Nat.pow 2 63 then Int64.ofNat x.truncatedMagnitude
    else Int64.maxValue

/-! ### Arithmetic -/

def toFloat (x : Binary64) : Float := Float.ofBits x.bits

def ofFloat (x : Float) : Binary64 := ⟨x.toBits⟩

def add (x y : Binary64) : Binary64 := ofFloat (x.toFloat + y.toFloat)

def mul (x y : Binary64) : Binary64 := ofFloat (x.toFloat * y.toFloat)

def div (x y : Binary64) : Binary64 := ofFloat (x.toFloat / y.toFloat)

/-- The logarithm to base two. -/
def log2 (x : Binary64) : Binary64 := ofFloat x.toFloat.log2

/-- The sum from left to right.  It starts at `-0`, the neutral element of addition, so the sum of
no numbers is `-0`. -/
def sum (xs : List Binary64) : Binary64 := xs.foldl add negativeZero

/-- `acc` times a power of `x`, by repeated squaring from the lowest bit of the exponent on. -/
def mulPow (acc x : Binary64) (n : Nat) : Binary64 :=
  if h : n = 0 then acc
  else mulPow (if n % 2 = 1 then mul acc x else acc) (mul x x) (n / 2)
termination_by n
decreasing_by omega

/-- The power with a natural exponent. -/
def pow (x : Binary64) (n : Nat) : Binary64 := mulPow (ofNat 1) x n

end Binary64

end PropertyGraph
