import PropertyGraph.Numeric.Binary64

/-!
# JSON values

A JSON value keeps the members of an object in the order of the text; `Json.member?` looks one up.
A number is an integer or a floating-point number, as it was written.
-/

namespace PropertyGraph

/-- A number written without fraction and exponent is an integer, unless it is too large. -/
inductive JsonNumber where
  | integer (n : Int)
  | float (x : Binary64)

inductive Json where
  | null
  | bool (b : Bool)
  | number (n : JsonNumber)
  | string (s : String)
  | array (items : List Json)
  | object (members : List (String × Json))

instance : Inhabited Json := ⟨.null⟩

namespace JsonNumber

/-- The number as a signed 64-bit integer, if it was written as one. -/
def toInt64? : JsonNumber → Option Int64
  | .integer n => if -Int.pow 2 63 ≤ n ∧ n < Int.pow 2 63 then some (Int64.ofInt n) else none
  | .float _ => none

/-- The number as a count below `2 ^ 64`, if it was written as one. -/
def toCount? : JsonNumber → Option Nat
  | .integer n => if 0 ≤ n ∧ n < Int.pow 2 64 then some n.toNat else none
  | .float _ => none

def toBinary64 : JsonNumber → Binary64
  | .integer n => Binary64.ofInt n
  | .float x => x

end JsonNumber

namespace Json

def ofInt (n : Int) : Json := .number (.integer n)

def ofNat (n : Nat) : Json := .number (.integer n)

/-- The value of the first member of a name. -/
def findMember? (name : String) : List (String × Json) → Option Json
  | [] => none
  | (k, v) :: rest => if k = name then some v else findMember? name rest

/-- The member of an object. -/
def member? (name : String) : Json → Option Json
  | .object members => findMember? name members
  | _ => none

def string? : Json → Option String
  | .string s => some s
  | _ => none

def array? : Json → Option (List Json)
  | .array items => some items
  | _ => none

def object? : Json → Option (List (String × Json))
  | .object members => some members
  | _ => none

def bool? : Json → Option Bool
  | .bool b => some b
  | _ => none

def int64? : Json → Option Int64
  | .number n => n.toInt64?
  | _ => none

def count? : Json → Option Nat
  | .number n => n.toCount?
  | _ => none

def isNull : Json → Bool
  | .null => true
  | _ => false

/-- Adds a member at the end, or replaces the value of the one with that name where it stands. -/
def setMember (name : String) (value : Json) : List (String × Json) → List (String × Json)
  | [] => [(name, value)]
  | (k, v) :: rest =>
    if k = name then (k, value) :: rest else (k, v) :: setMember name value rest

mutual

/-- Gives every object of a value one member a name: a repeated name keeps its first place and its
last value. -/
def merged : Json → Json
  | .array items => .array (mergedItems items)
  | .object members => .object (mergedMembers [] members)
  | .null => .null
  | .bool b => .bool b
  | .number n => .number n
  | .string s => .string s

def mergedItems : List Json → List Json
  | [] => []
  | j :: rest => merged j :: mergedItems rest

/-- Adds members to those that stand before them. -/
def mergedMembers (before : List (String × Json)) : List (String × Json) → List (String × Json)
  | [] => before
  | (name, j) :: rest => mergedMembers (setMember name (merged j) before) rest

end

end Json

end PropertyGraph
