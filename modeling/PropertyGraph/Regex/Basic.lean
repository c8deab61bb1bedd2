import PropertyGraph.Text.Blank
import PropertyGraph.Text.Folding
import PropertyGraph.Text.Letters

/-!
# Regular expressions and what they match

A `Regex` matches between two places of a text.  `Regex.ends` maps a set of places to the set of
places where a match that starts at one of them may end; repetition is the closure of that map.
Only whether a text holds a match is asked, so no order among matches is kept.
-/

namespace PropertyGraph

/-! ### Sets of characters -/

/-- A set of characters. -/
inductive CharSet where
  | empty
  | all
  | range (first last : Char)
  | category (k : Text.GeneralCategory)
  /-- The characters of a table of properties. -/
  | table (ranges : CodeRanges)
  | word
  | blank
  | letter
  | numeral
  | alphabetic
  | union (a b : CharSet)
  | inter (a b : CharSet)
  | compl (a : CharSet)
  /-- The characters that differ only in case from one of the set. -/
  | anyCase (a : CharSet)
  /-- The set and the ASCII letters that differ only in case from one of it. -/
  | asciiCase (a : CharSet)

namespace CharSet

/-- The characters of a property that version 16 of the standard knows. -/
def known (property : Char → Bool) (c : Char) : Bool := property c && !Text.isRecent c

def contains : CharSet → Char → Bool
  | .empty, _ => false
  | .all, _ => true
  | .range first last, c => first ≤ c && c ≤ last
  | .category k, c => Text.formerCategory c = k
  | .table ranges, c => ranges.contains c.toNat
  | .word, c => known Text.isWordCharacter c
  | .blank, c => Text.isBlank c
  | .letter, c => known Text.isLetter c
  | .numeral, c => known Text.isNumeral c
  | .alphabetic, c => known Text.isAlphabetic c
  | .union a b, c => a.contains c || b.contains c
  | .inter a b, c => a.contains c && b.contains c
  | .compl a, c => !a.contains c
  | .anyCase a, c => (Text.sameCase c).any a.contains
  | .asciiCase a, c => a.contains c || a.contains c.toLower || a.contains c.toUpper

def single (c : Char) : CharSet := .range c c

def difference (a b : CharSet) : CharSet := .inter a (.compl b)

def symmetricDifference (a b : CharSet) : CharSet := .union (difference a b) (difference b a)

/-- Everything but the line feed. -/
def notNewline : CharSet := .compl (single '\n')

/-- Everything but the line feed and the carriage return. -/
def notLineEnding : CharSet := .compl (.union (single '\n') (single '\r'))

end CharSet

/-! ### Expressions -/

/-- What an expression may ask of a place without taking a character. -/
inductive Anchor where
  | textStart
  | textEnd
  | lineStart
  | lineEnd
  /-- A line start where lines end in a line feed, a carriage return or both. -/
  | anyLineStart
  | anyLineEnd
  /-- A character of a word stands on one side of the place only. -/
  | wordBoundary (w : CharSet)
  | notWordBoundary (w : CharSet)
  | wordStart (w : CharSet)
  | wordEnd (w : CharSet)
  /-- No word character stands before the place. -/
  | wordStartHalf (w : CharSet)
  /-- No word character stands after the place. -/
  | wordEndHalf (w : CharSet)

inductive Regex where
  | empty
  | set (s : CharSet)
  | anchor (a : Anchor)
  | concat (a b : Regex)
  | either (a b : Regex)
  /-- At least `min` times and, if there is a bound, at most `max` times. -/
  | repeat (r : Regex) (min : Nat) (max : Option Nat)
  /-- A group whose match could be asked for. -/
  | capture (r : Regex)

/-! ### Matching -/

/-- Whether a place of a text, between two characters or at an end, is as an anchor asks. -/
def Anchor.holdsAt (text : Array Char) (i : Nat) (a : Anchor) : Bool :=
  let before : Option Char := if i = 0 then none else text[i - 1]?
  let after : Option Char := text[i]?
  match a with
  | .textStart => i == 0
  | .textEnd => i == text.size
  | .lineStart => i == 0 || before == some '\n'
  | .lineEnd => i == text.size || after == some '\n'
  -- A line feed belongs to the carriage return before it.
  | .anyLineStart =>
    i == 0 || before == some '\n' || (before == some '\r' && after != some '\n')
  | .anyLineEnd =>
    i == text.size || after == some '\r' || (after == some '\n' && before != some '\r')
  | .wordBoundary w => before.any w.contains != after.any w.contains
  | .notWordBoundary w => before.any w.contains == after.any w.contains
  | .wordStart w => !before.any w.contains && after.any w.contains
  | .wordEnd w => before.any w.contains && !after.any w.contains
  | .wordStartHalf w => !before.any w.contains
  | .wordEndHalf w => !after.any w.contains

/-- The union of two lists of places without repetitions. -/
def unionPlaces (a b : List Nat) : List Nat := a ++ b.filter fun i => !a.contains i

/-- All places reached from `reached` by steps, at most `fuel` of them from any place. -/
def closePlaces (step : List Nat → List Nat) : Nat → List Nat → List Nat → List Nat
  | 0, reached, _ => reached
  | fuel + 1, reached, frontier =>
    let fresh := (step frontier).filter fun i => !reached.contains i
    if fresh.isEmpty then reached else closePlaces step fuel (reached ++ fresh) fresh

/-- Steps from a set of places `n` times.  Once a step changes nothing, no further one does. -/
def iteratePlaces (step : List Nat → List Nat) : Nat → List Nat → List Nat
  | 0, places => places
  | n + 1, places =>
    let next := step places
    if next = places then places else iteratePlaces step n next

/-- All places reached from a set of places in at most `n` steps. -/
def boundedPlaces (step : List Nat → List Nat) : Nat → List Nat → List Nat
  | 0, places => places
  | n + 1, places =>
    let next := step places
    if next = places then places else unionPlaces places (boundedPlaces step n next)

namespace Regex

/-- The places where a match that starts at one of the given places may end. -/
def ends (text : Array Char) : Regex → List Nat → List Nat
  | .empty, places => places
  | .set s, places => (places.filter fun i => text[i]?.any s.contains).map (· + 1)
  | .anchor a, places => places.filter fun i => a.holdsAt text i
  | .concat a b, places => b.ends text (a.ends text places)
  | .either a b, places => unionPlaces (a.ends text places) (b.ends text places)
  | .repeat r min max, places =>
    let start := iteratePlaces (r.ends text) min places
    match max with
    | some max => boundedPlaces (r.ends text) (max - min) start
    -- A text has one place more than characters, so longer chains repeat a place.
    | none => closePlaces (r.ends text) (text.size + 1) start start
  | .capture r, places => r.ends text places

/-- A match stands somewhere in the text. -/
def isMatch (r : Regex) (text : String) : Bool :=
  let cs := text.toList.toArray
  !(r.ends cs (List.range (cs.size + 1))).isEmpty

end Regex

end PropertyGraph
