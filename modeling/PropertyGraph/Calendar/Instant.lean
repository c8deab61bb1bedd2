import PropertyGraph.Calendar.Date
import PropertyGraph.Text.Blank
import PropertyGraph.Numeric.Decimal

/-!
# Instants and their text

An `Instant` counts seconds from the start of 1970 in universal time, and nanoseconds within the
second; a leap second is written as more than `10 ^ 9` nanoseconds after second 59.

`Instant.render` writes date, `T`, time and a zone; `Instant.ofText?` reads that form with any
offset from universal time, a blank in place of `T`, and blanks between the parts.
-/

namespace PropertyGraph

structure Instant where
  seconds : Int
  nanoseconds : Nat
deriving DecidableEq

namespace Instant

def compare (a b : Instant) : Ordering :=
  (Ord.compare a.seconds b.seconds).then (Ord.compare a.nanoseconds b.nanoseconds)

/-! ### Writing -/

/-- A natural number with zeros in front up to a width. -/
def padded (width n : Nat) : String :=
  let ds := Decimal.digitsOf n
  String.ofList (Decimal.zeros (width - ds.length) ++ ds)

/-- Four digits for the years 0 to 9999; others carry a sign. -/
def yearText (year : Int) : String :=
  if 0 ≤ year ∧ year ≤ 9999 then padded 4 year.toNat
  else (if year < 0 then "-" else "+") ++ padded 4 year.natAbs

/-- The fraction of a second in three, six or nine digits, the least that are exact. -/
def fractionText (nanoseconds : Nat) : String :=
  if nanoseconds = 0 then ""
  else if nanoseconds % 1000000 = 0 then "." ++ padded 3 (nanoseconds / 1000000)
  else if nanoseconds % 1000 = 0 then "." ++ padded 6 (nanoseconds / 1000)
  else "." ++ padded 9 nanoseconds

/-- The text of an instant in universal time, with a given spelling of the zone. -/
def render (zone : String) (t : Instant) : String :=
  let days := t.seconds.fdiv 86400
  let ofDay := (t.seconds - days * 86400).toNat
  let date := Date.ofDayNumber days
  let second := ofDay % 60 + t.nanoseconds / 1000000000
  yearText date.year ++ "-" ++ padded 2 date.month ++ "-" ++ padded 2 date.day ++ "T" ++
    padded 2 (ofDay / 3600) ++ ":" ++ padded 2 (ofDay / 60 % 60) ++ ":" ++ padded 2 second ++
    fractionText (t.nanoseconds % 1000000000) ++ zone

/-- The text with a numeric offset, `1970-01-01T00:00:00+00:00`. -/
def toText (t : Instant) : String := t.render "+00:00"

/-- The text with the letter of universal time, `1970-01-01T00:00:00Z`. -/
def toZuluText (t : Instant) : String := t.render "Z"

/-! ### Reading -/

/-- Reads a number of one to `most` digits. -/
def number? (most : Nat) (text : List Char) : Option (Nat × List Char) :=
  let ds := (text.take most).takeWhile Char.isDigit
  if ds.isEmpty then none else some (Binary64.ofDigits ds, text.drop ds.length)

/-- A year: up to four digits, or a sign and any number of digits. -/
def year? (text : List Char) : Option (Int × List Char) :=
  match text.dropWhile Text.isBlank with
  | '-' :: rest => (number? rest.length rest).map fun (n, rest) => (-(n : Int), rest)
  | '+' :: rest => (number? rest.length rest).map fun (n, rest) => ((n : Int), rest)
  | rest => (number? 4 rest).map fun (n, rest) => ((n : Int), rest)

/-- A mark with blanks around it, then a number of up to two digits. -/
def markedNumber? (mark : Char) (text : List Char) : Option (Nat × List Char) :=
  match text.dropWhile Text.isBlank with
  | c :: rest => if c = mark then number? 2 (rest.dropWhile Text.isBlank) else none
  | [] => none

/-- The fraction of a second: nothing, or a point and digits, of which nine count. -/
def fraction? (text : List Char) : Option (Nat × List Char) :=
  match text with
  | '.' :: rest =>
    let ds := rest.takeWhile Char.isDigit
    let kept := ds.take 9
    if ds.isEmpty then none
    else some (Binary64.ofDigits kept * Nat.pow 10 (9 - kept.length), rest.drop ds.length)
  | _ => some (0, text)

/-- The seconds from universal time to local time: `Z`, `UTC`, or sign, hours and minutes. -/
def offset? (text : List Char) : Option (Int × List Char) :=
  let twoDigits (text : List Char) : Option (Nat × List Char) :=
    match text with
    | a :: b :: rest =>
      if a.isDigit && b.isDigit then some (Binary64.ofDigits [a, b], rest) else none
    | _ => none
  let hoursAndMinutes (text : List Char) : Option (Nat × List Char) := do
    let (hours, rest) ← twoDigits text
    let (minutes, rest) ← twoDigits (rest.dropWhile fun c => c = ':' || Text.isBlank c)
    if minutes < 60 then some (hours * 3600 + minutes * 60, rest) else none
  match text with
  | c :: rest =>
    if (text.take 3).map Char.toUpper = ['U', 'T', 'C'] then some (0, text.drop 3)
    else if c = 'Z' ∨ c = 'z' then some (0, rest)
    else if c = '+' then (hoursAndMinutes rest).map fun (n, rest) => ((n : Int), rest)
    else if c = '-' ∨ c = '\u2212' then
      (hoursAndMinutes rest).map fun (n, rest) => (-(n : Int), rest)
    else none
  | [] => none

/-- The instant that a date and time with a zone denotes. -/
def ofText? (text : String) : Option Instant := do
  let (year, rest) ← year? text.toList
  let (month, rest) ← markedNumber? '-' rest
  let (day, rest) ← markedNumber? '-' rest
  let rest ←
    match rest with
    | c :: rest => if c = 'T' ∨ c = 't' ∨ c = ' ' then some rest else none
    | [] => none
  let (hour, rest) ← number? 2 (rest.dropWhile Text.isBlank)
  let (minute, rest) ← markedNumber? ':' rest
  let (second, rest) ← markedNumber? ':' rest
  let (nanoseconds, rest) ← fraction? rest
  let (offset, rest) ← offset? (rest.dropWhile Text.isBlank)
  let date : Date := ⟨year, month, day⟩
  guard (rest.all Text.isBlank && date.isValid)
  guard (hour < 24 && minute < 60 && second ≤ 60 && offset.natAbs < 86400)
  -- Second 60 is the leap second after second 59.
  let (second, nanoseconds) :=
    if second = 60 then (59, nanoseconds + 1000000000) else (second, nanoseconds)
  let ofDay : Int := hour * 3600 + minute * 60 + second
  let t : Instant := ⟨date.dayNumber * 86400 + ofDay - offset, nanoseconds⟩
  -- The offset may lead out of the years that instants are kept for.
  guard (Date.ofDayNumber (t.seconds.fdiv 86400)).isValid
  some t

end Instant

end PropertyGraph
