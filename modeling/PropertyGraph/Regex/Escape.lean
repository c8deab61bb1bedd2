import PropertyGraph.Json.Reader
import PropertyGraph.Numeric.Decimal
import PropertyGraph.Regex.Property

/-!
# Escapes in regular expressions

`Regex.escape?` reads what stands after a backslash: a character by its code point or a letter of
its own, a class of characters, or an anchor.  With the flag for it, blanks and comments may stand
within an escape that has several characters.

Without the flag for Unicode, classes and boundaries know ASCII only, and what could match a part
of a character is refused: every complement, and bytes beyond ASCII.
-/

namespace PropertyGraph.Regex

/-- The flags that hold at a place of the text. -/
structure Flags where
  ignoreCase : Bool := false
  multiLine : Bool := false
  dotAll : Bool := false
  verbose : Bool := false
  /-- Lines end in a line feed, a carriage return or both. -/
  anyLineEnding : Bool := false
  unicode : Bool := true

namespace Flags

/-- The set with the characters that differ in case, if case does not count. -/
def fold (flags : Flags) (s : CharSet) : CharSet :=
  if !flags.ignoreCase then s else if flags.unicode then .anyCase s else .asciiCase s

/-- The set or its complement. -/
def negate? (flags : Flags) (negated : Bool) (s : CharSet) : Option CharSet :=
  if !negated then some s else if flags.unicode then some (.compl s) else none

end Flags

/-! ### Blanks and numbers -/

/-- With the flag for it, blanks and comments up to the end of a line are passed over. -/
def skipVerbose (fuel : Nat) (flags : Flags) (text : List Char) : List Char :=
  match fuel with
  | 0 => text
  | fuel + 1 =>
    if !flags.verbose then text
    else
      match text with
      | c :: rest =>
        if Text.isBlank c then skipVerbose fuel flags rest
        else if c = '#' then skipVerbose fuel flags (rest.dropWhile (· != '\n'))
        else text
      | [] => []

/-- Passes over blanks and comments where they do not count. -/
def skip (flags : Flags) (text : List Char) : List Char := skipVerbose text.length flags text

/-- Passes over blanks, and comments where blanks do not count. -/
def skipBlanks (flags : Flags) (text : List Char) : List Char :=
  (skip flags text).dropWhile Text.isBlank

/-- Reads characters as long as they are wanted, passing over what does not count behind each, and
at most `most` of them. -/
def spelled (flags : Flags) (wanted : Char → Bool) : Nat → List Char → List Char × List Char
  | 0, text => ([], text)
  | most + 1, c :: rest =>
    if wanted c then
      let (more, rest) := spelled flags wanted most (skip flags rest)
      (c :: more, rest)
    else ([], c :: rest)
  | _, [] => ([], [])

/-- The characters up to a closing brace, after the opening one. -/
def braced? (flags : Flags) (text : List Char) : Option (List Char × List Char) :=
  match spelled flags (· != '\x7d') text.length (skip flags text) with
  | (content, _ :: rest) => some (content, rest)
  | (_, []) => none

/-- A count of at most 32 bits, with blanks around it. -/
def count? (flags : Flags) (text : List Char) : Option (Nat × List Char) :=
  let (ds, rest) := spelled flags Char.isDigit text.length (text.dropWhile Text.isBlank)
  let n := Binary64.ofDigits ds
  if ds.isEmpty || Nat.pow 2 32 ≤ n then none else some (n, skipBlanks flags rest)

/-! ### Escapes -/

/-- What an escape or a plain character stands for. -/
inductive Atom where
  | char (c : Char)
  | set (s : CharSet)
  | anchor (a : Anchor)

/-- The characters that stand for something else when they are not escaped. -/
def isMeta (c : Char) : Bool :=
  ['\\', '.', '+', '*', '?', '(', ')', '|', '[', ']', '\x7b', '\x7d', '^', '$', '#', '&', '-',
    '~'].contains c

/-- The characters that may stand after a backslash to mean themselves. -/
def isEscapable (c : Char) : Bool :=
  isMeta c || (c.toNat < 128 && !c.isAlphanum && c != '<' && c != '>')

/-- The character with a code point, if there is one. -/
def charOf? (n : Nat) : Option Char := if n.isValidChar then some (Char.ofNat n) else none

/-- The number that hexadecimal digits denote. -/
def hexNumber? (ds : List Char) : Option Nat :=
  ds.foldl (fun n c => n.bind fun n => (Json.Reader.hexValue? c).map fun d => 16 * n + d) (some 0)

/-- The character of a hexadecimal escape, after its letter: `width` digits or any in braces.  Two
digits stand for a byte where Unicode does not count. -/
def hexEscape? (flags : Flags) (width : Nat) (text : List Char) : Option (Char × List Char) := do
  match skip flags text with
  | '\x7b' :: rest =>
    let (ds, rest) ← braced? flags rest
    guard !ds.isEmpty
    let c ← (hexNumber? ds).bind charOf?
    some (c, rest)
  | rest =>
    let (ds, rest) := spelled flags (fun _ => true) width rest
    guard (ds.length = width)
    let c ← (hexNumber? ds).bind charOf?
    guard (flags.unicode || width != 2 || c.toNat < 128)
    some (c, rest)

/-- The set of a property escape, after its letter. -/
def propertyEscape? (flags : Flags) (negated : Bool) (text : List Char) :
    Option (CharSet × List Char) := do
  guard flags.unicode
  let (name, rest) ←
    match skip flags text with
    | '\x7b' :: rest => braced? flags rest
    | c :: rest => some ([c], rest)
    | [] => none
  let s ← propertySet? name
  let s ← flags.negate? negated (flags.fold s)
  some (s, rest)

/-- The set of a named class within brackets, such as `alpha`. -/
def namedClass? (name : String) : Option CharSet :=
  let range (a b : Char) : CharSet := .range a b
  let digits := range '0' '9'
  let upper := range 'A' 'Z'
  let lower := range 'a' 'z'
  let letters : CharSet := .union upper lower
  let visible := range '!' '~'
  if name = "alnum" then some (.union letters digits)
  else if name = "alpha" then some letters
  else if name = "ascii" then some (range (Char.ofNat 0) (Char.ofNat 127))
  else if name = "blank" then some (.union (.single '\t') (.single ' '))
  else if name = "cntrl" then some (.union (range (Char.ofNat 0) (Char.ofNat 31)) (.single '\x7f'))
  else if name = "digit" then some digits
  else if name = "graph" then some visible
  else if name = "lower" then some lower
  else if name = "print" then some (range ' ' '~')
  else if name = "punct" then some (.inter visible (.compl (.union letters digits)))
  else if name = "space" then some (.union (range '\t' '\r') (.single ' '))
  else if name = "upper" then some upper
  else if name = "word" then some (.union (.union letters digits) (.single '_'))
  else if name = "xdigit" then some (.union digits (.union (range 'A' 'F') (range 'a' 'f')))
  else none

/-- Digits, blanks or characters of a word, by the letter of their escape. -/
def letterClass? (flags : Flags) (letter : Char) : Option CharSet :=
  let choose (s : CharSet) (name : String) : Option CharSet :=
    if flags.unicode then some s else namedClass? name
  if letter = 'd' then choose (.category .nd) "digit"
  else if letter = 's' then choose .blank "space"
  else if letter = 'w' then choose .word "word"
  else none

/-- The special word boundary of a name in braces after `\b`. -/
def specialBoundary? (name : List Char) (w : CharSet) : Option Anchor :=
  let name := String.ofList name
  if name = "start" then some (.wordStart w)
  else if name = "end" then some (.wordEnd w)
  else if name = "start-half" then some (.wordStartHalf w)
  else if name = "end-half" then some (.wordEndHalf w)
  else none

/-- A word boundary, after `\b`; braces with something else behind it count repetitions. -/
def boundary (flags : Flags) (w : CharSet) (text : List Char) : Anchor × List Char :=
  let plain := (Anchor.wordBoundary w, text)
  match text with
  | '\x7b' :: rest =>
    match braced? flags rest with
    | some (name, rest) =>
      match specialBoundary? name w with
      | some a => (a, rest)
      | none => plain
    | none => plain
  | _ => plain

/-- What stands after a backslash. -/
def escape? (flags : Flags) (text : List Char) : Option (Atom × List Char) :=
  match text with
  | [] => none
  | c :: rest =>
    let char (c : Char) : Option (Atom × List Char) := some (.char c, rest)
    let anchor (a : Anchor) : Option (Atom × List Char) := some (.anchor a, rest)
    let hex (width : Nat) : Option (Atom × List Char) :=
      (hexEscape? flags width rest).map fun (c, rest) => (.char c, rest)
    let property (negated : Bool) : Option (Atom × List Char) :=
      (propertyEscape? flags negated rest).map fun (s, rest) => (.set s, rest)
    let letters (negated : Bool) : Option (Atom × List Char) := do
      let s ← letterClass? flags c.toLower
      let s ← flags.negate? negated s
      some (.set s, rest)
    let w : CharSet := (letterClass? flags 'w').getD .word
    if c.isDigit then none
    else if c = 'x' then hex 2
    else if c = 'u' then hex 4
    else if c = 'U' then hex 8
    else if c = 'p' then property false
    else if c = 'P' then property true
    else if c = 'd' ∨ c = 's' ∨ c = 'w' then letters false
    else if c = 'D' ∨ c = 'S' ∨ c = 'W' then letters true
    else if isEscapable c then char c
    else if c = 'a' then char '\x07'
    else if c = 'f' then char '\x0c'
    else if c = 't' then char '\t'
    else if c = 'n' then char '\n'
    else if c = 'r' then char '\r'
    else if c = 'v' then char '\x0b'
    else if c = 'A' then anchor .textStart
    else if c = 'z' then anchor .textEnd
    else if c = 'B' then anchor (.notWordBoundary w)
    else if c = '<' then anchor (.wordStart w)
    else if c = '>' then anchor (.wordEnd w)
    else if c = 'b' then
      let (a, rest) := boundary flags w rest
      some (.anchor a, rest)
    else none

end PropertyGraph.Regex
