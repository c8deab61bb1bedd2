import PropertyGraph.Error
import PropertyGraph.Regex.Engine
import PropertyGraph.Value.Order

/-!
# Comparison operators

The closed list of operators that filters and patterns use.  `Operator.check` refuses operands
that an operator cannot use before anything is evaluated; `Operator.evaluate` compares a field of
a row, null where it is missing, with the operand.  Regular expressions are left to an engine.
-/

namespace PropertyGraph

inductive Operator where
  | eq
  | neq
  | gt
  | gte
  | lt
  | lte
  | contains
  | startsWith
  | endsWith
  | regex
deriving DecidableEq

namespace Operator

def all : List Operator :=
  [.eq, .neq, .gt, .gte, .lt, .lte, .contains, .startsWith, .endsWith, .regex]

def name : Operator → String
  | .eq => "eq"
  | .neq => "neq"
  | .gt => "gt"
  | .gte => "gte"
  | .lt => "lt"
  | .lte => "lte"
  | .contains => "contains"
  | .startsWith => "startsWith"
  | .endsWith => "endsWith"
  | .regex => "regex"

/-- The name without a dollar sign at its start. -/
def bareName (name : String) : String :=
  match name.toList with
  | '$' :: rest => String.ofList rest
  | _ => name

/-- The operator of a name, with or without a dollar sign. -/
def ofName (name : String) : Except Error Operator :=
  match all.find? fun op => op.name == bareName name with
  | some op => .ok op
  | none => .error (.unknownOperator name)

/-- An operator for strings and lists only. -/
def isTextual : Operator → Bool
  | .contains | .startsWith | .endsWith | .regex => true
  | _ => false

variable {ρ : Type} [RegexEngine ρ]

/-- Refuses an operand that the operator cannot use. -/
def check (op : Operator) (operand : Value) : Except Error Unit :=
  let notAString : Except Error Unit :=
    .error (.invalidQuery (.operandNotAString op.name operand.typeName))
  match op, operand with
  | .regex, .string pattern =>
    if (RegexEngine.compile? pattern).isSome then .ok ()
    else .error (.invalidQuery (.invalidRegex pattern))
  | .startsWith, .string _ | .endsWith, .string _ => .ok ()
  | .regex, _ | .startsWith, _ | .endsWith, _ => notAString
  | _, _ => .ok ()

/-- One text occurs in another. -/
def occursIn (needle : List Char) : List Char → Bool
  | [] => needle.isEmpty
  | c :: rest => needle.isPrefixOf (c :: rest) || occursIn needle rest

/-- Whether a regular expression matches somewhere in a text; one that is malformed never does. -/
def matchesRegex (pattern text : String) : Bool :=
  match RegexEngine.compile? pattern with
  | some r => RegexEngine.isMatch r text
  | none => false

/-- Compares a field with the operand; a missing field counts as null. -/
def evaluate (op : Operator) (field : Option Value) (operand : Value) : Bool :=
  let actual := field.getD .null
  match op with
  | .eq => actual.looseEquals operand
  | .neq => !actual.looseEquals operand
  | .gt => actual.compare? operand == some .gt
  | .gte => actual.compare? operand == some .gt || actual.compare? operand == some .eq
  | .lt => actual.compare? operand == some .lt
  | .lte => actual.compare? operand == some .lt || actual.compare? operand == some .eq
  | .contains =>
    match actual, operand with
    | .string s, .string needle => occursIn needle.toList s.toList
    | .list items, needle => items.any fun item => item.looseEquals needle
    | _, _ => false
  | .startsWith =>
    match actual, operand with
    | .string s, .string start => start.toList.isPrefixOf s.toList
    | _, _ => false
  | .endsWith =>
    match actual, operand with
    | .string s, .string ending => ending.toList.isSuffixOf s.toList
    | _, _ => false
  | .regex =>
    match actual, operand with
    | .string s, .string pattern => matchesRegex pattern s
    | _, _ => false

end Operator

end PropertyGraph
