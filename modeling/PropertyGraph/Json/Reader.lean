import PropertyGraph.Json.Basic
import PropertyGraph.Numeric.Decimal

/-!
# Reading JSON text

`Json.read?` reads one JSON value and nothing after it.  Arrays and objects may be nested 127
levels deep; a repeated member name keeps its first place and its last value.

A number with a fraction, an exponent or too many digits is a floating-point number.  It is
computed in floating-point arithmetic: the digits that fit in 64 bits, multiplied or divided once
by a power of ten.
-/

namespace PropertyGraph.Json.Reader

/-- The rest of the text after something read from its start. -/
abbrev Step (α : Type) := List Char → Option (α × List Char)

def skipBlanks : List Char → List Char :=
  List.dropWhile fun c => c = ' ' || c = '\n' || c = '\t' || c = '\r'

/-! ### Numbers -/

def maxSignificand : Nat := Nat.pow 2 64 - 1

/-- The largest exponent of ten that is a floating-point number. -/
def maxPower : Nat := 308

def powerOfTen (n : Nat) : Binary64 := Binary64.ofNat (Nat.pow 10 n)

/-- Divides by `10 ^ 308` as long as the exponent stays below the table of powers, then by the
power that is left. -/
def scaleDown (x : Binary64) (e : Nat) : Binary64 :=
  if e ≤ maxPower then x.div (powerOfTen e)
  else if x.isZero then x
  else scaleDown (x.div (powerOfTen maxPower)) (e - maxPower)
termination_by e
decreasing_by simp_all [maxPower]; omega

/-- The value of digits and an exponent of ten, if it is finite. -/
def scale? (significand : Nat) (exponent : Int) : Option Binary64 :=
  let x := Binary64.ofNat significand
  match exponent with
  | .ofNat e =>
    if e ≤ maxPower then
      let y := x.mul (powerOfTen e)
      if y.isInfinite then none else some y
    else if x.isZero then some x else none
  | .negSucc e => some (scaleDown x (e + 1))

/-- Reads digits into a significand as long as it fits in 64 bits, counting those that fit. -/
def digits (significand count : Nat) : List Char → Nat × Nat × List Char
  | [] => (significand, count, [])
  | c :: rest =>
    if c.isDigit then
      let next := significand * 10 + Binary64.digitValue c
      if maxSignificand < next then (significand, count, c :: rest)
      else digits next (count + 1) rest
    else (significand, count, c :: rest)

/-- The largest exponent that is read as such. -/
def maxExponent : Nat := Nat.pow 2 31 - 1

/-- Keeps an exponent within 32 bits. -/
def clampExponent (e : Int) : Int := max (-Int.pow 2 31) (min (Int.pow 2 31 - 1) e)

/-- An exponent part, after its letter, ends a number with a significand and an exponent. -/
def exponentPart (significand : Nat) (start : Int) : Step Binary64 := fun text =>
  let (positive, rest) :=
    match text with
    | '+' :: rest => (true, rest)
    | '-' :: rest => (false, rest)
    | rest => (true, rest)
  let ds := rest.takeWhile Char.isDigit
  let rest := rest.dropWhile Char.isDigit
  let written := Binary64.ofDigits ds
  if ds.isEmpty then none
  else if maxExponent < written then
    if significand ≠ 0 ∧ positive then none else some (Binary64.zero, rest)
  else
    let exponent := clampExponent (if positive then start + written else start - written)
    (scale? significand exponent).map fun x => (x, rest)

/-- What may follow the digits of a number: an exponent part or nothing. -/
def afterDigits (significand : Nat) (exponent : Int) : Step Binary64 := fun text =>
  match text with
  | c :: rest =>
    if c = 'e' ∨ c = 'E' then exponentPart significand exponent rest
    else (scale? significand exponent).map fun x => (x, text)
  | [] => (scale? significand exponent).map fun x => (x, [])

/-- The digits after the point; those that do not fit are passed over. -/
def fractionPart (significand : Nat) (exponent : Int) : Step Binary64 := fun text =>
  if (text.takeWhile Char.isDigit).isEmpty then none
  else
    let (significand, count, rest) := digits significand 0 text
    afterDigits significand (exponent - count) (rest.dropWhile Char.isDigit)

/-- The number without its sign, given the digits before the point that fit, the number of those
that do not, and the rest of the text. -/
def unsignedFloat (significand excess : Nat) : Step Binary64 := fun text =>
  match text with
  | '.' :: rest => fractionPart significand excess rest
  | rest => afterDigits significand excess rest

def number : Step JsonNumber := fun text =>
  let (negative, text) :=
    match text with
    | '-' :: rest => (true, rest)
    | rest => (false, rest)
  let whole := text.takeWhile Char.isDigit
  let sign (x : Binary64) : Binary64 := if negative then x.neg else x
  match whole with
  | [] => none
  | first :: others =>
    if first = '0' && !others.isEmpty then none
    else
      let (significand, _, beyond) := digits 0 0 whole
      let rest := text.dropWhile Char.isDigit
      let isFloat :=
        match rest with
        | c :: _ => c = '.' || c = 'e' || c = 'E'
        | [] => false
      if isFloat || !beyond.isEmpty then
        (unsignedFloat significand beyond.length rest).map fun (x, rest) => (.float (sign x), rest)
      else if negative then
        -- Zero with a sign and integers below the 64-bit range are kept as floating point.
        if significand = 0 ∨ Nat.pow 2 63 < significand then
          some (.float (sign (Binary64.ofNat significand)), rest)
        else some (.integer (-(significand : Int)), rest)
      else some (.integer significand, rest)

/-! ### Strings -/

/-- The value of a hexadecimal digit. -/
def hexValue? (c : Char) : Option Nat :=
  if '0' ≤ c ∧ c ≤ '9' then some (c.toNat - 48)
  else if 'a' ≤ c ∧ c ≤ 'f' then some (c.toNat - 87)
  else if 'A' ≤ c ∧ c ≤ 'F' then some (c.toNat - 55)
  else none

/-- Four hexadecimal digits. -/
def hexUnit : Step Nat
  | a :: b :: c :: d :: rest => do
    let a ← hexValue? a
    let b ← hexValue? b
    let c ← hexValue? c
    let d ← hexValue? d
    some (((a * 16 + b) * 16 + c) * 16 + d, rest)
  | _ => none

/-- The character of a `\u` escape, after the letter; a leading surrogate needs its partner. -/
def unicodeEscape : Step Char := fun text => do
  let (unit, rest) ← hexUnit text
  if 0xD800 ≤ unit ∧ unit < 0xDC00 then
    match rest with
    | '\\' :: 'u' :: rest =>
      let (low, rest) ← hexUnit rest
      if 0xDC00 ≤ low ∧ low < 0xE000 then
        some (Char.ofNat (0x10000 + (unit - 0xD800) * 0x400 + (low - 0xDC00)), rest)
      else none
    | _ => none
  else if 0xDC00 ≤ unit ∧ unit < 0xE000 then none
  else some (Char.ofNat unit, rest)

/-- The character of an escape, after the backslash. -/
def escape : Step Char
  | 'n' :: rest => some ('\n', rest)
  | 't' :: rest => some ('\t', rest)
  | 'r' :: rest => some ('\r', rest)
  | 'b' :: rest => some ('\x08', rest)
  | 'f' :: rest => some ('\x0c', rest)
  | 'u' :: rest => unicodeEscape rest
  | c :: rest => if c = '\x22' ∨ c = '\\' ∨ c = '/' then some (c, rest) else none
  | [] => none

/-- The characters up to the closing quote, given those read so far in reverse. -/
def stringBody (fuel : Nat) (acc : List Char) : Step String := fun text =>
  match fuel, text with
  | fuel + 1, c :: rest =>
    if c = '\x22' then some (String.ofList acc.reverse, rest)
    else if c = '\\' then
      match escape rest with
      | some (d, rest) => stringBody fuel (d :: acc) rest
      | none => none
    else if c.toNat < 32 then none
    else stringBody fuel (c :: acc) rest
  | _, _ => none

def stringLiteral : Step String
  | '\x22' :: rest => stringBody rest.length [] rest
  | _ => none

/-! ### Values -/

/-- Takes a word off the text. -/
def keyword (word : List Char) (text : List Char) : Option (List Char) :=
  if word.isPrefixOf text then some (text.drop word.length) else none

mutual

/-- Reads a value whose arrays and objects are nested less than `depth` levels deep. -/
def value (fuel depth : Nat) (text : List Char) : Option (Json × List Char) :=
  match fuel with
  | 0 => none
  | fuel + 1 =>
    match skipBlanks text with
    | [] => none
    | c :: rest =>
      if c = '\x22' then (stringLiteral (c :: rest)).map fun (s, rest) => (.string s, rest)
      else if c = '[' then
        if depth ≤ 1 then none
        else
          match skipBlanks rest with
          | ']' :: rest => some (.array [], rest)
          | rest => elements fuel (depth - 1) [] rest
      else if c = '\x7b' then
        if depth ≤ 1 then none
        else
          match skipBlanks rest with
          | '\x7d' :: rest => some (.object [], rest)
          | rest => members fuel (depth - 1) [] rest
      else if c = 'n' then (keyword ['u', 'l', 'l'] rest).map fun rest => (.null, rest)
      else if c = 't' then (keyword ['r', 'u', 'e'] rest).map fun rest => (.bool true, rest)
      else if c = 'f' then (keyword ['a', 'l', 's', 'e'] rest).map fun rest => (.bool false, rest)
      else (number (c :: rest)).map fun (n, rest) => (.number n, rest)

/-- Reads the elements of an array up to its bracket, given those read so far in reverse. -/
def elements (fuel depth : Nat) (acc : List Json) (text : List Char) :
    Option (Json × List Char) :=
  match fuel with
  | 0 => none
  | fuel + 1 =>
    match value fuel depth text with
    | none => none
    | some (item, rest) =>
      match skipBlanks rest with
      | ',' :: rest => elements fuel depth (item :: acc) rest
      | ']' :: rest => some (.array (item :: acc).reverse, rest)
      | _ => none

/-- Reads the members of an object up to its brace, given those read so far in reverse. -/
def members (fuel depth : Nat) (acc : List (String × Json)) (text : List Char) :
    Option (Json × List Char) :=
  match fuel with
  | 0 => none
  | fuel + 1 =>
    match stringLiteral (skipBlanks text) with
    | none => none
    | some (name, rest) =>
      match skipBlanks rest with
      | ':' :: rest =>
        match value fuel depth rest with
        | none => none
        | some (item, rest) =>
          match skipBlanks rest with
          | ',' :: rest => members fuel depth ((name, item) :: acc) rest
          | '\x7d' :: rest => some (.object ((name, item) :: acc).reverse, rest)
          | _ => none
      | _ => none

end

/-- The limit on the nesting of arrays and objects. -/
def depthLimit : Nat := 128

/-- Enough fuel for a reader of values: every call of it takes a character or is followed by one
that does. -/
def fuelFor (text : List Char) : Nat := 2 * text.length + 2

/-- Reads a value that stands alone. -/
def whole : Step Json := fun text => value (fuelFor text) depthLimit text

/-- What a text holds that has nothing else in it. -/
def all? {α : Type} (read : Step α) (text : String) : Option α :=
  match read text.toList with
  | some (x, rest) => if (skipBlanks rest).isEmpty then some x else none
  | none => none

end PropertyGraph.Json.Reader

namespace PropertyGraph.Json

/-- The value that a text holds, if it is JSON. -/
def read? (text : String) : Option Json := (Reader.all? Reader.whole text).map merged

end PropertyGraph.Json
