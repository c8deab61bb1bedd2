import PropertyGraph.Collection.StableSort
import PropertyGraph.Value.Basic

/-!
# Comparing values

Four relations: `equals` tells values of one kind apart, `looseEquals` in addition identifies an
integer with the floating-point number of the same value, `compare?` orders values that are
comparable, and `sortCompare` orders all of them, null last and kinds by name.
-/

namespace PropertyGraph.Value

/-- The order of comparable values; null compares with nothing. -/
def compare? : Value → Value → Option Ordering
  | .bool a, .bool b => some (compare a b)
  | .int a, .int b => some (compare a b)
  | .float a, .float b => a.partialCompare b
  | .int a, .float b => (Binary64.ofInt a.toInt).partialCompare b
  | .float a, .int b => a.partialCompare (Binary64.ofInt b.toInt)
  | .string a, .string b => some (compare a b)
  | .dateTime a, .dateTime b => some (a.compare b)
  | _, _ => none

mutual

/-- Equality of values of one kind; floating-point numbers are compared by value, so NaN differs
from itself. -/
def equals : Value → Value → Bool
  | .null, .null => true
  | .bool a, .bool b => a == b
  | .int a, .int b => a == b
  | .float a, .float b => a.equals b
  | .string a, .string b => a == b
  | .bytes a, .bytes b => a == b
  | .list a, .list b => equalsItems a b
  | .map a, .map b => equalsEntries a b
  | .dateTime a, .dateTime b => a == b
  | _, _ => false

def equalsItems : List Value → List Value → Bool
  | [], [] => true
  | v :: vs, w :: ws => equals v w && equalsItems vs ws
  | _, _ => false

def equalsEntries : List (String × Value) → List (String × Value) → Bool
  | [], [] => true
  | (k, v) :: vs, (l, w) :: ws => k == l && equals v w && equalsEntries vs ws
  | _, _ => false

end

mutual

/-- Equality in which an integer and a floating-point number of the same value are equal, at any
depth. -/
def looseEquals : Value → Value → Bool
  | .int a, .int b => a == b
  | .float a, .float b => a.equals b
  | .int a, .float b => (Binary64.ofInt a.toInt).equals b
  | .float a, .int b => a.equals (Binary64.ofInt b.toInt)
  | .list a, .list b => looseEqualsItems a b
  | .map a, .map b => looseEqualsEntries a b
  | .null, .null => true
  | .bool a, .bool b => a == b
  | .string a, .string b => a == b
  | .bytes a, .bytes b => a == b
  | .dateTime a, .dateTime b => a == b
  | _, _ => false

def looseEqualsItems : List Value → List Value → Bool
  | [], [] => true
  | v :: vs, w :: ws => looseEquals v w && looseEqualsItems vs ws
  | _, _ => false

def looseEqualsEntries : List (String × Value) → List (String × Value) → Bool
  | [], [] => true
  | (k, v) :: vs, (l, w) :: ws => k == l && looseEquals v w && looseEqualsEntries vs ws
  | _, _ => false

end

/-- The order of sorting: null after everything else, and incomparable values by the names of
their types. -/
def sortCompare (a b : Value) : Ordering :=
  match a.isNull, b.isNull with
  | true, true => .eq
  | true, false => .gt
  | false, true => .lt
  | false, false => (a.compare? b).getD (compare a.typeName b.typeName)

/-- Equality of property maps, entry by entry. -/
def equalsProperties (a b : PropertyMap) : Bool := equalsEntries a.entries b.entries

end PropertyGraph.Value
