import PropertyGraph.Regex.Escape

/-!
# Classes in brackets

`Regex.class?` reads a class of characters: members, ranges, named classes, classes within the
class, and the operations between them.  Case is folded before a class is negated, and on both
sides of an operation.  With a class goes its depth, the most brackets, unions and operations that
stand one within another in it.
-/

namespace PropertyGraph.Regex

/-- The members of a class read so far. -/
structure Union where
  set : CharSet := .empty
  count : Nat := 0
  depth : Nat := 0

namespace Union

def add (u : Union) (s : CharSet) (depth : Nat) : Union :=
  ⟨.union u.set s, u.count + 1, Nat.max u.depth depth⟩

/-- The depth of the members as one thing; a single member stands for itself. -/
def nesting (u : Union) : Nat := if u.count ≤ 1 then u.depth else u.depth + 1

end Union

/-- A named class, after its opening bracket. -/
def bracketedName? (flags : Flags) (text : List Char) : Option (Option CharSet × List Char) := do
  let rest ← Json.Reader.keyword [':'] text
  let (negated, rest) :=
    match rest with
    | '^' :: rest => (true, rest)
    | rest => (false, rest)
  let name := rest.takeWhile (· != ':')
  let s ← namedClass? (String.ofList name)
  let after ← Json.Reader.keyword [':', ']'] (rest.drop name.length)
  some (flags.negate? negated (flags.fold s), after)

/-- One member of a class: a character or an escape. -/
def classItem? (flags : Flags) (text : List Char) : Option (Atom × List Char) := do
  let (item, rest) ←
    match text with
    | '\\' :: rest => escape? flags rest
    | c :: rest => some (Atom.char c, rest)
    | [] => none
  match item with
  | .char c => if flags.unicode || c.toNat < 128 then some (item, rest) else none
  | _ => some (item, rest)

/-- The character that tells whether a hyphen makes a range: the next one that counts.  Of a
comment the first character that is not blank counts here. -/
def behindHyphen? (flags : Flags) (text : List Char) : Option Char :=
  if !flags.verbose then text.head?
  else
    match text.dropWhile Text.isBlank with
    | '#' :: rest => (rest.dropWhile Text.isBlank).head?
    | rest => rest.head?

/-- A member of a class or a range of characters. -/
def classRange? (flags : Flags) (text : List Char) : Option (CharSet × List Char) := do
  let (first, rest) ← classItem? flags text
  let rest := skip flags rest
  let alone : Option (CharSet × List Char) :=
    match first with
    | .char c => some (.single c, rest)
    | .set s => some (s, rest)
    | .anchor _ => none
  match rest with
  | [] => none
  | '-' :: after =>
    let next := behindHyphen? flags after
    -- Before a bracket or another hyphen, a hyphen makes no range.
    if next == some ']' || next == some '-' then alone
    else do
      let (last, rest) ← classItem? flags (skip flags after)
      match first, last with
      | .char a, .char b => if a ≤ b then some (.range a b, rest) else none
      | _, _ => none
  | _ => alone

/-- The operations between the parts of a class. -/
inductive ClassOp where
  | inter
  | difference
  | symmetricDifference

/-- Joins the members read last to what came before them, with the depth of the whole. -/
def joinClass (flags : Flags) (before : Option (CharSet × Nat × ClassOp)) (u : Union) :
    CharSet × Nat :=
  match before with
  | none => (u.set, u.nesting)
  | some (s, depth, op) =>
    let s := flags.fold s
    let t := flags.fold u.set
    let joined : CharSet :=
      match op with
      | .inter => .inter s t
      | .difference => .difference s t
      | .symmetricDifference => .symmetricDifference s t
    (joined, Nat.max depth u.nesting + 1)

/-- The hyphens at the start of a class, which stand for themselves. -/
def leadingHyphens (flags : Flags) (text : List Char) : Union × List Char :=
  let (hyphens, rest) := spelled flags (· == '-') text.length text
  (hyphens.foldl (fun u c => u.add (.single c) 0) {}, rest)

/-- The start of a class after its bracket: a negation, and the characters that stand for
themselves there. -/
def classStart (flags : Flags) (text : List Char) : Bool × Union × List Char :=
  let text := skip flags text
  let (negated, text) :=
    match text with
    | '^' :: rest => (true, skip flags rest)
    | rest => (false, rest)
  match leadingHyphens flags text with
  | (⟨_, 0, _⟩, ']' :: rest) => (negated, Union.add {} (.single ']') 0, skip flags rest)
  | (hyphens, rest) => (negated, hyphens, rest)

/-- The members of a class up to its closing bracket, given those read so far and what came before
an operation.  Returns the class before folding and negation. -/
def classBody (fuel : Nat) (flags : Flags) (before : Option (CharSet × Nat × ClassOp)) (u : Union)
    (text : List Char) : Option ((CharSet × Nat) × List Char) :=
  match fuel with
  | 0 => none
  | fuel + 1 =>
    let operation (op : ClassOp) (rest : List Char) : Option ((CharSet × Nat) × List Char) :=
      let (s, depth) := joinClass flags before u
      classBody fuel flags (some (s, depth, op)) {} rest
    let nested (text : List Char) : Option (CharSet × Nat × List Char) := do
      let (negated, start, rest) := classStart flags text
      let ((s, depth), rest) ← classBody fuel flags none start rest
      let s ← flags.negate? negated (flags.fold s)
      some (s, depth + 1, rest)
    match skip flags text with
    | [] => none
    | ']' :: rest => some (joinClass flags before u, rest)
    | '&' :: '&' :: rest => operation .inter rest
    | '-' :: '-' :: rest => operation .difference rest
    | '~' :: '~' :: rest => operation .symmetricDifference rest
    | '[' :: rest =>
      match bracketedName? flags rest with
      | some (some s, rest) => classBody fuel flags before (u.add s 0) rest
      | some (none, _) => none
      | none =>
        match nested rest with
        | some (s, depth, rest) => classBody fuel flags before (u.add s depth) rest
        | none => none
    | rest =>
      match classRange? flags rest with
      | some (s, rest) => classBody fuel flags before (u.add s 0) rest
      | none => none

/-- A class and its depth, after its opening bracket. -/
def class? (flags : Flags) (text : List Char) : Option (CharSet × Nat × List Char) := do
  let (negated, start, rest) := classStart flags text
  let ((s, depth), rest) ← classBody (rest.length + 1) flags none start rest
  let s ← flags.negate? negated (flags.fold s)
  some (s, depth + 1, rest)

end PropertyGraph.Regex
