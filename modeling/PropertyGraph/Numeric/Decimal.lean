import PropertyGraph.Numeric.Binary64

/-!
# Decimal text of binary numbers

`Decimal.shortest` finds the fewest digits that read back as a given number and, of those with
that many digits, the ones nearest to it.  A number is read back from every decimal in an interval
around it, so one grid of decimals after the other is tried at the number's two neighbours on it.

Two texts are built on it: `Binary64.positional`, which never uses an exponent, and
`Binary64.scientific`, which does outside a range of magnitudes.  `Binary64.ofText?` reads decimal
text, rounding to the nearest number.
-/

namespace PropertyGraph

/-- The decimal `digits * 10 ^ exponent`. -/
structure Decimal where
  digits : Nat
  exponent : Int

/-- Which of two equally near decimals of the same length is chosen. -/
inductive DecimalTie where
  | up
  | even

namespace Decimal

/-- The decimal digits of a natural number; `0` is one digit. -/
def digitsOf (n : Nat) : List Char := Nat.toDigits 10 n

/-- The same decimal without zeros at the end of its digits, dropping at most `fuel` of them. -/
def trim : Nat → Decimal → Decimal
  | 0, d => d
  | fuel + 1, d =>
    if d.digits ≠ 0 ∧ d.digits % 10 = 0 then trim fuel ⟨d.digits / 10, d.exponent + 1⟩ else d

/-! ### The shortest decimal -/

/-- The decimals that read back as a number lie between `low / den` and `high / den`, which are
among them if `closed`; the number itself is `mid / den`. -/
structure RoundingInterval where
  low : Nat
  mid : Nat
  high : Nat
  den : Nat
  closed : Bool

/-- The interval of a positive finite number: half way to both of its neighbours. -/
def RoundingInterval.of (x : Binary64) : RoundingInterval :=
  let m := x.significand
  let up := Nat.pow 2 (x.scale - 1074)
  -- Below a power of two the neighbours lie half as far apart.
  let below := if m = Nat.pow 2 52 ∧ 0 < x.scale then 1 else 2
  { low := (4 * m - below) * up
    mid := 4 * m * up
    high := (4 * m + 2) * up
    den := 4 * Nat.pow 2 (1074 - x.scale)
    closed := m % 2 == 0 }

/-- The interval with all its decimals multiplied by `10 ^ (-e)`. -/
def RoundingInterval.rescale (i : RoundingInterval) : Int → RoundingInterval
  | .ofNat e => { i with den := i.den * Nat.pow 10 e }
  | .negSucc e =>
    let p := Nat.pow 10 (e + 1)
    { i with low := i.low * p, mid := i.mid * p, high := i.high * p }

def RoundingInterval.contains (i : RoundingInterval) (n : Nat) : Bool :=
  if i.closed then i.low ≤ n * i.den && n * i.den ≤ i.high
  else i.low < n * i.den && n * i.den < i.high

/-- An exponent `e` with `10 ^ (e - 1) ≤ mid / den ≤ 10 ^ e`. -/
def RoundingInterval.magnitude (i : RoundingInterval) : Int :=
  if i.den ≤ i.mid then (digitsOf (i.mid / i.den)).length
  else 1 - ((digitsOf (i.den / i.mid)).length : Int)

/-- The decimal of `n` digits nearest to the number, if one reads back as it. -/
def RoundingInterval.nearest? (i : RoundingInterval) (tie : DecimalTie) (n : Nat) :
    Option Decimal :=
  let e := i.magnitude - n
  let j := i.rescale e
  let below := j.mid / j.den
  let excess := 2 * (j.mid % j.den)
  let upper :=
    if excess = j.den then
      match tie with
      | .up => true
      | .even => below % 2 == 1
    else decide (j.den < excess)
  match j.contains below, j.contains (below + 1) with
  | true, true => some ⟨if upper then below + 1 else below, e⟩
  | true, false => some ⟨below, e⟩
  | false, true => some ⟨below + 1, e⟩
  | false, false => none

/-- The shortest decimal that reads back as a positive finite number, the nearest of its length.
Seventeen digits always suffice. -/
def shortest (tie : DecimalTie) (x : Binary64) : Decimal :=
  let i := RoundingInterval.of x
  let found := (List.range 17).findSome? fun n => i.nearest? tie (n + 1)
  trim 17 (found.getD ⟨i.mid / i.den, 0⟩)

/-! ### Texts -/

def zeros (n : Nat) : List Char := List.replicate n '0'

/-- The text without an exponent and without a point where there is no fraction. -/
def positional (d : Decimal) : List Char :=
  let ds := digitsOf d.digits
  match d.exponent with
  | .ofNat e => ds ++ zeros e
  | .negSucc e =>
    let places := e + 1
    if places < ds.length then ds.take (ds.length - places) ++ '.' :: ds.drop (ds.length - places)
    else '0' :: '.' :: zeros (places - ds.length) ++ ds

/-- The text with an exponent: one digit before the point, no point after a single digit.  The
exponent has a sign if it is negative, and the given one if it is not. -/
def exponential (plus : List Char) (d : Decimal) : List Char :=
  let ds := digitsOf d.digits
  let exponent : List Char :=
    match d.exponent + ds.length - 1 with
    | .ofNat e => plus ++ digitsOf e
    | .negSucc e => '-' :: digitsOf (e + 1)
  match ds with
  | first :: second :: rest => first :: '.' :: second :: rest ++ 'e' :: exponent
  | _ => ds ++ 'e' :: exponent

/-- The text of a fraction or a whole number with `.0`, with an exponent for magnitudes from
`10 ^ high` on and below `10 ^ low`. -/
def ranged (low high : Int) (plus : List Char) (d : Decimal) : List Char :=
  let point := d.exponent + (digitsOf d.digits).length
  if low < point ∧ point ≤ high then
    if 0 ≤ d.exponent then d.positional ++ ['.', '0'] else d.positional
  else d.exponential plus

end Decimal

namespace Binary64

/-- Puts the sign in front of the text of the absolute value. -/
def signed (x : Binary64) (text : List Char) : String :=
  String.ofList (if x.isNegative then '-' :: text else text)

/-- The shortest text without an exponent: `1`, `0.1`, `-0`, `inf`, `NaN`. -/
def positional (x : Binary64) : String :=
  if x.isNaN then "NaN"
  else if x.isInfinite then x.signed ['i', 'n', 'f']
  else if x.isZero then x.signed ['0']
  else x.signed (Decimal.shortest .up x).positional

/-- The shortest text of a finite number that shows it to be no integer: `1.0`, `1e+300`. -/
def scientific (x : Binary64) : String :=
  if x.isZero then x.signed ['0', '.', '0']
  else x.signed ((Decimal.shortest .even x).ranged (-5) 16 ['+'])

/-- The shortest text that shows a number to be no integer: `1.0`, `1e300`, `NaN`. -/
def literal (x : Binary64) : String :=
  if x.isNaN then "NaN"
  else if x.isInfinite then x.signed ['i', 'n', 'f']
  else if x.isZero then x.signed ['0', '.', '0']
  else x.signed ((Decimal.shortest .up x).ranged (-4) 16 [])

/-! ### Reading -/

/-- The number a digit stands for. -/
def digitValue (c : Char) : Nat := c.toNat - 48

/-- The value of a list of decimal digits, the first one leading. -/
def ofDigits (ds : List Char) : Nat := ds.foldl (fun n c => 10 * n + digitValue c) 0

/-- The nearest number to `digits * 10 ^ exponent`. -/
def ofDecimal (digits : Nat) (exponent : Int) : Binary64 :=
  -- Outside these exponents the result is known, and the powers would only be large.
  let size : Int := (Decimal.digitsOf digits).length
  if digits = 0 ∨ size + exponent < -400 then zero
  else if 400 < size + exponent then infinity
  else
    match exponent with
    | .ofNat e => ofRatio (digits * Nat.pow 10 e) 1
    | .negSucc e => ofRatio digits (Nat.pow 10 (e + 1))

/-- The exponent part of decimal text: nothing, or `e` with an optional sign and digits. -/
def exponentOf? : List Char → Option Int
  | [] => some 0
  | c :: rest =>
    if c = 'e' ∨ c = 'E' then
      let (negative, ds) :=
        match rest with
        | '-' :: ds => (true, ds)
        | '+' :: ds => (false, ds)
        | ds => (false, ds)
      if ds.isEmpty || !ds.all Char.isDigit then none
      else some (if negative then -(ofDigits ds : Int) else ofDigits ds)
    else none

/-- The number that unsigned decimal text denotes: digits with a point anywhere among them and an
optional exponent, or a word for infinity or NaN in any case. -/
def ofUnsigned? (text : List Char) : Option Binary64 :=
  let word := String.ofList (text.map Char.toLower)
  if word = "inf" ∨ word = "infinity" then some infinity
  else if word = "nan" then some nan
  else
    let whole := text.takeWhile Char.isDigit
    let afterWhole := text.dropWhile Char.isDigit
    let (fraction, rest) :=
      match afterWhole with
      | '.' :: tail => (tail.takeWhile Char.isDigit, tail.dropWhile Char.isDigit)
      | _ => ([], afterWhole)
    if whole.isEmpty && fraction.isEmpty then none
    else
      (exponentOf? rest).map fun e => ofDecimal (ofDigits (whole ++ fraction)) (e - fraction.length)

/-- The nearest number to the one that decimal text denotes. -/
def ofText? (text : List Char) : Option Binary64 :=
  match text with
  | '-' :: rest => (ofUnsigned? rest).map neg
  | '+' :: rest => ofUnsigned? rest
  | rest => ofUnsigned? rest

end Binary64

end PropertyGraph
