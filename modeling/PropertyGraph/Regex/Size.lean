import PropertyGraph.Regex.Basic

/-!
# The size of an automaton

`Regex.size` estimates how many bytes the automaton of an expression takes that reads a text byte
by byte: a state takes 32 bytes, and each way out of it beyond the first one more.  Counted
repetitions repeat the states of what they repeat, so short expressions may have large automata;
those over `Regex.sizeLimit` are refused.
-/

namespace PropertyGraph

def stateSize : Nat := 32

/-- The size of the part that takes a character of a category, which spreads over many ranges of
code points. -/
def categorySize : Text.GeneralCategory → Nat
  | .lu => 26496
  | .ll => 27568
  | .lt => 552
  | .lm => 4984
  | .lo => 34076
  | .mn => 19348
  | .mc => 10308
  | .me => 468
  | .nd => 5116
  | .nl => 1112
  | .no => 5100
  | .pc => 540
  | .pd => 1392
  | .ps => 3644
  | .pe => 3504
  | .pi => 588
  | .pf => 552
  | .po => 11212
  | .sm => 3960
  | .sc => 1720
  | .sk => 2020
  | .so => 13088
  | .zs => 572
  | .zl => 164
  | .zp => 164
  | .cc => 204
  | .cf => 1784
  | .co => 864
  | .cn => 42372

/-- The number of ranges of a set that is put together from ranges of ASCII. -/
def CharSet.asciiRanges? : CharSet → Option Nat
  | .range _ last => if last.toNat < 128 then some 1 else none
  | .empty => some 0
  | .union a b => do return (← a.asciiRanges?) + (← b.asciiRanges?)
  | _ => none

/-- About the size of the part of an automaton that takes a character of the set. -/
def CharSet.size : CharSet → Nat
  | .empty => stateSize
  | .all => 1000
  | .range first last =>
    if first = last then stateSize * first.utf8Size
    else if last.toNat < 128 then 2 * stateSize + 8
    else 200
  | .category k => categorySize k
  -- The ranges of a table share few states.
  | .table ranges => 2 * stateSize * (ranges.length + 1)
  | .word => 49836
  | .blank => 680
  | .letter => 42732
  | .numeral => 9748
  | .alphabetic => 47072
  | .union .empty b => b.size
  | .union a b =>
    match (CharSet.union a b).asciiRanges? with
    | some ranges => 2 * stateSize + 8 * ranges
    | none => a.size + b.size
  | .inter a b => a.size + b.size
  -- What lies between the ranges of a property may spread over more states than they do.
  | .compl (.category .nd) => 12720
  | .compl .blank => 1924
  | .compl .word => 46420
  | .compl a => Nat.max 1000 a.size
  | .anyCase a => a.size + 48
  | .asciiCase a => a.size + 48

namespace Regex

/-- The largest automaton that is made. -/
def sizeLimit : Nat := 10 * Nat.pow 2 20

/-- A match of the expression may be empty. -/
def isNullable : Regex → Bool
  | .empty => true
  | .set _ => false
  | .anchor _ => true
  | .concat a b => a.isNullable && b.isNullable
  | .either a b => a.isNullable || b.isNullable
  | .repeat r min _ => min == 0 || r.isNullable
  | .capture r => r.isNullable

/-- No match of the expression takes a character. -/
def isWeightless : Regex → Bool
  | .empty => true
  | .set _ => false
  | .anchor _ => true
  | .concat a b => a.isWeightless && b.isWeightless
  | .either a b => a.isWeightless && b.isWeightless
  | .repeat r _ max => max == some 0 || r.isWeightless
  | .capture r => r.isWeightless

/-- The size of a repetition of something of a size: one copy for each time it is counted. -/
def repeatedSize (size : Nat) (nullable : Bool) (min : Nat) (max : Option Nat) : Nat :=
  let fork := stateSize + 8
  match max with
  | none =>
    if 0 < min then min * size + fork
    else if nullable then size + 2 * fork + stateSize
    else size + fork
  | some max =>
    if max = 0 then stateSize
    else if min = max then min * size
    else if min = 0 ∧ max = 1 then size + fork + stateSize
    else (if min = 0 then stateSize else min * size) + stateSize + (max - min) * (size + fork)

def size : Regex → Nat
  | .empty => stateSize
  | .set s => s.size
  | .anchor _ => stateSize
  | .concat a b => a.size + b.size
  | .either a b => a.size + b.size + 2 * stateSize
  | .repeat r min max =>
    -- Repeating what takes no character adds nothing.
    if r.isWeightless then repeatedSize r.size true (Nat.min min 1) (some (Nat.min (max.getD 1) 1))
    else repeatedSize r.size r.isNullable min max
  | .capture r => r.size + 2 * stateSize

end Regex

end PropertyGraph
