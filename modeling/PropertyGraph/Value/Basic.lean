import PropertyGraph.Calendar.Instant
import PropertyGraph.Collection.SortedMap
import PropertyGraph.Numeric.Binary64

/-!
# Property values

A `Value` is what a property of a node or an edge holds, and what a row of a query is made of.
The entries of a map are kept in ascending order of their keys, so that equal maps are equal
lists; `Value.Canonical` says so of a value and all values in it.
-/

namespace PropertyGraph

inductive Value where
  | null
  | bool (b : Bool)
  | int (n : Int64)
  | float (x : Binary64)
  | string (s : String)
  | bytes (b : List UInt8)
  | list (items : List Value)
  | map (entries : List (String × Value))
  | dateTime (t : Instant)

instance : Inhabited Value := ⟨.null⟩

/-- The properties of a node or an edge. -/
abbrev PropertyMap := SortedMap String Value

namespace Value

/-- The value of a property map. -/
def ofProperties (properties : PropertyMap) : Value := .map properties.entries

/-- The map with the entries of a list, the last one of a repeated key. -/
def ofEntries (entries : List (String × Value)) : Value := .map (Entries.ofList entries)

/-! ### Maps in order -/

mutual

/-- In every map of the value the keys grow along the entries. -/
def Canonical : Value → Prop
  | .list items => CanonicalItems items
  | .map entries => Entries.Sorted entries ∧ CanonicalEntries entries
  | _ => True

def CanonicalItems : List Value → Prop
  | [] => True
  | v :: rest => Canonical v ∧ CanonicalItems rest

def CanonicalEntries : List (String × Value) → Prop
  | [] => True
  | (_, v) :: rest => Canonical v ∧ CanonicalEntries rest

end

/-! ### Kinds of values -/

def typeName : Value → String
  | .null => "NULL"
  | .bool _ => "BOOLEAN"
  | .int _ => "INTEGER"
  | .float _ => "FLOAT"
  | .string _ => "STRING"
  | .bytes _ => "BYTES"
  | .list _ => "LIST"
  | .map _ => "MAP"
  | .dateTime _ => "DATETIME"

def isNull : Value → Bool
  | .null => true
  | _ => false

def isNumeric : Value → Bool
  | .int _ | .float _ => true
  | _ => false

def isString : Value → Bool
  | .string _ => true
  | _ => false

def isMap : Value → Bool
  | .map _ => true
  | _ => false

/-- What counts as true: all but null, false, zero and the empty string. -/
def isTruthy : Value → Bool
  | .null => false
  | .bool b => b
  | .int n => n != 0
  | .float x => !x.isZero
  | .string s => !s.isEmpty
  | _ => true

/-! ### Contents -/

/-- An integer, or a floating-point number without a fraction held within the bounds. -/
def int? : Value → Option Int64
  | .int n => some n
  | .float x => if x.isIntegral then some x.toInt64 else none
  | _ => none

def float? : Value → Option Binary64
  | .float x => some x
  | .int n => some (Binary64.ofInt n.toInt)
  | _ => none

def string? : Value → Option String
  | .string s => some s
  | _ => none

def list? : Value → Option (List Value)
  | .list items => some items
  | _ => none

def map? : Value → Option (List (String × Value))
  | .map entries => some entries
  | _ => none

end Value

end PropertyGraph
