import PropertyGraph.Regex.Class
import PropertyGraph.Regex.Engine
import PropertyGraph.Regex.Size

/-!
# The text of regular expressions

`Regex.ofText?` reads an expression: literals, the point, classes in brackets, escapes, anchors,
groups, alternatives, and repetitions with a star, a plus, a question mark or counts in braces.
Flags in a group switch case, lines, the point, blanks and Unicode.  There is no looking around and
no reference back, and a repetition needs something to repeat; such a text is refused, and so is
one whose parts are nested too deep or whose automaton would be too large.

With this the expressions are an engine for programs to use.  It knows no properties by age or by
where texts may be broken, and how large an automaton would be is an estimate; what is said of
queries holds for every `RegexEngine`.
-/

namespace PropertyGraph.Regex

/-! ### Groups -/

/-- Sets or clears a flag by its letter.  Which match is preferred, the letter `U`, makes no
difference here. -/
def Flags.set? (flags : Flags) (letter : Char) (value : Bool) : Option Flags :=
  if letter = 'i' then some { flags with ignoreCase := value }
  else if letter = 'm' then some { flags with multiLine := value }
  else if letter = 's' then some { flags with dotAll := value }
  else if letter = 'x' then some { flags with verbose := value }
  else if letter = 'u' then some { flags with unicode := value }
  else if letter = 'R' then some { flags with anyLineEnding := value }
  else if letter = 'U' then some flags
  else none

/-- Reads flags up to a colon or a closing parenthesis, which is returned with the rest.  A letter
may occur once, and a hyphen once with a letter after it. -/
def flags? (flags : Flags) (seen : List Char) (negated : Bool) :
    List Char → Option (Flags × Bool × Char × List Char)
  | [] => none
  | c :: rest =>
    if c = ':' || c = ')' then
      if seen.head? == some '-' then none else some (flags, seen.isEmpty, c, rest)
    else if seen.contains c then none
    else if c = '-' then flags? flags (c :: seen) true rest
    else
      match flags.set? c (!negated) with
      | some flags => flags? flags (c :: seen) negated rest
      | none => none

/-- The name of a group up to its closing angle. -/
def groupName? (text : List Char) : Option (String × List Char) :=
  let name := text.takeWhile (· != '>')
  let isFirst (c : Char) : Bool := c == '_' || Text.isAlphabetic c
  let isNext (c : Char) : Bool :=
    c == '_' || c == '.' || c == '[' || c == ']' || Text.isAlphanumeric c
  match name with
  | [] => none
  | c :: others =>
    if name.length < text.length && isFirst c && others.all isNext then
      some (String.ofList name, text.drop (name.length + 1))
    else none

/-- What an opening parenthesis opens. -/
inductive Opening where
  /-- A group that captures its match, with a name or without. -/
  | capture (name : Option String)
  | group (flags : Flags)
  /-- Flags for the rest of the group around them. -/
  | setFlags (flags : Flags)

/-- Reads what stands after an opening parenthesis. -/
def opening? (flags : Flags) (text : List Char) : Option (Opening × List Char) :=
  match skip flags text with
  | '?' :: 'P' :: '<' :: rest =>
    (groupName? rest).map fun (name, rest) => (.capture (some name), rest)
  | '?' :: '<' :: rest =>
    match rest with
    | '=' :: _ => none
    | '!' :: _ => none
    | _ => (groupName? rest).map fun (name, rest) => (.capture (some name), rest)
  | '?' :: rest =>
    match flags? flags [] false rest with
    | some (inner, bare, ending, rest) =>
      if ending = ')' then if bare then none else some (.setFlags inner, rest)
      else some (.group inner, rest)
    | none => none
  | rest => some (.capture none, rest)

/-! ### Expressions -/

/-- A part of an expression with its depth: the most repetitions, groups, alternatives, sequences
and classes that stand one within another in it. -/
structure Part where
  regex : Regex
  depth : Nat := 0

namespace Part

/-- Flags for what follows, which match nothing. -/
def flags : Part := ⟨.empty, 0⟩

/-- The greatest depth of some parts. -/
def deepest (parts : List Part) : Nat := parts.foldl (fun n p => Nat.max n p.depth) 0

/-- Concatenates the parts of a sequence, given in reverse. -/
def concat (parts : List (Option Part)) : Part :=
  let join (acc : Regex) (part : Option Part) : Regex :=
    match part, acc with
    | none, acc => acc
    | some p, .empty => p.regex
    | some p, acc => .concat p.regex acc
  let inner := deepest (parts.map (·.getD flags))
  ⟨parts.foldl join .empty, if parts.length ≤ 1 then inner else inner + 1⟩

/-- The alternatives of a group, the ones before the last given in reverse. -/
def alternatives (done : List Part) (last : Part) : Part :=
  if done.isEmpty then last
  else ⟨done.foldl (fun acc p => .either p.regex acc) last.regex, deepest (last :: done) + 1⟩

/-- What a group holds, as a part of what is around it. -/
def grouped (p : Part) (captures : Bool) : Part :=
  ⟨if captures then .capture p.regex else p.regex, p.depth + 1⟩

def repeated (p : Part) (min : Nat) (max : Option Nat) : Part :=
  ⟨.repeat p.regex min max, p.depth + 1⟩

/-- The expression of a character or an escape. -/
def ofAtom (flags : Flags) : Atom → Part
  | .char c => ⟨.set (flags.fold (.single c)), 0⟩
  | .set s => ⟨.set s, 0⟩
  | .anchor a => ⟨.anchor a, 0⟩

/-- The expression of a character that is not escaped. -/
def ofChar? (flags : Flags) (c : Char) : Option Part :=
  if c = '.' then
    if !flags.unicode then none
    else if flags.dotAll then some ⟨.set .all, 0⟩
    else if flags.anyLineEnding then some ⟨.set .notLineEnding, 0⟩
    else some ⟨.set .notNewline, 0⟩
  else if c = '^' then
    some (ofAtom flags (.anchor
      (if !flags.multiLine then .textStart
        else if flags.anyLineEnding then .anyLineStart else .lineStart)))
  else if c = '$' then
    some (ofAtom flags (.anchor
      (if !flags.multiLine then .textEnd
        else if flags.anyLineEnding then .anyLineEnd else .lineEnd)))
  else some (ofAtom flags (.char c))

end Part

/-- The bounds of a repetition in braces, after the opening one. -/
def bounds? (flags : Flags) (text : List Char) : Option (Nat × Option Nat × List Char) := do
  let (low, rest) ← count? flags (skip flags text)
  match rest with
  | '\x7d' :: rest => some (low, some low, skip flags rest)
  | ',' :: rest =>
    match skip flags rest with
    | '\x7d' :: rest => some (low, none, skip flags rest)
    | rest =>
      let (high, rest) ← count? flags rest
      match rest with
      | '\x7d' :: rest => if low ≤ high then some (low, some high, skip flags rest) else none
      | _ => none
  | _ => none

/-- A repetition may be followed by a question mark, which asks for short matches first. -/
def skipLazy : List Char → List Char
  | '?' :: rest => rest
  | rest => rest

/-- Reads a sequence of parts and alternatives up to the end of its group: a closing parenthesis
within `nested` ones, the end of the text outside.

* `names` are the names of the groups before; a name may be given once.
* `done` are the alternatives before, and `parts` the parts of the current one, in reverse; a part
  that is `none` has set flags and cannot be repeated. -/
def sequence (fuel nested : Nat) (flags : Flags) (names : List String) (done : List Part)
    (parts : List (Option Part)) (text : List Char) :
    Option (Part × List String × List Char) :=
  match fuel with
  | 0 => none
  | fuel + 1 =>
    let result : Part := Part.alternatives done (Part.concat parts)
    let next (part : Part) (rest : List Char) : Option (Part × List String × List Char) :=
      sequence fuel nested flags names done (some part :: parts) rest
    let repeated (min : Nat) (max : Option Nat) (rest : List Char) :
        Option (Part × List String × List Char) :=
      match parts with
      | some p :: before =>
        sequence fuel nested flags names done (some (p.repeated min max) :: before) (skipLazy rest)
      | _ => none
    let group (captures : Bool) (inner : Flags) (known : List String) (rest : List Char) :
        Option (Part × List String × List Char) :=
      match sequence fuel (nested + 1) inner known [] [] rest with
      | some (p, names, rest) =>
        sequence fuel nested flags names done (some (p.grouped captures) :: parts) rest
      | none => none
    match skip flags text with
    | [] => if nested = 0 then some (result, names, []) else none
    | c :: rest =>
      if c = '(' then
        match opening? flags rest with
        | none => none
        | some (.setFlags inner, rest) =>
          sequence fuel nested inner names done (none :: parts) rest
        | some (.capture name, rest) =>
          if name.any names.contains then none else group true flags (name.toList ++ names) rest
        | some (.group inner, rest) => group false inner names rest
      else if c = ')' then if nested = 0 then none else some (result, names, rest)
      else if c = '|' then sequence fuel nested flags names (Part.concat parts :: done) [] rest
      else if c = '[' then
        match class? flags rest with
        | some (s, depth, rest) => next ⟨.set s, depth⟩ rest
        | none => none
      else if c = '*' then repeated 0 none rest
      else if c = '+' then repeated 1 none rest
      else if c = '?' then repeated 0 (some 1) rest
      else if c = '\x7b' then
        match bounds? flags rest with
        | some (min, max, rest) => repeated min max rest
        | none => none
      else if c = '\\' then
        match escape? flags rest with
        | some (a, rest) => next (Part.ofAtom flags a) rest
        | none => none
      else
        match Part.ofChar? flags c with
        | some p => next p rest
        | none => none

/-- The depth of an expression that is still read. -/
def depthLimit : Nat := 250

/-- The regular expression that a text denotes, if it is one. -/
def ofText? (text : String) : Option Regex := do
  let cs := text.toList
  -- Every call takes a character, but for the one at the end.
  let (p, _, _) ← sequence (cs.length + 1) 0 {} [] [] [] cs
  guard (p.depth ≤ depthLimit && p.regex.size ≤ sizeLimit)
  some p.regex

instance : RegexEngine Regex where
  compile? := ofText?
  isMatch := isMatch

end PropertyGraph.Regex
