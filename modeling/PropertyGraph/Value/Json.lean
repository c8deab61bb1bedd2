import PropertyGraph.Json.Basic
import PropertyGraph.Value.Basic

/-!
# Values and plain JSON

`Value.ofJson` reads a value from JSON as it is written by hand: a number without fraction that
fits in 64 bits is an integer.  `Value.toJson` writes one back; bytes become numbers, instants
text, and floating-point numbers that are not finite become null.
-/

namespace PropertyGraph.Value

def ofNumber (n : JsonNumber) : Value :=
  match n.toInt64? with
  | some i => .int i
  | none => .float n.toBinary64

mutual

def ofJson : Json → Value
  | .null => .null
  | .bool b => .bool b
  | .number n => ofNumber n
  | .string s => .string s
  | .array items => .list (ofJsonItems items)
  | .object members => .map (Entries.ofList (ofJsonMembers members))

def ofJsonItems : List Json → List Value
  | [] => []
  | j :: rest => ofJson j :: ofJsonItems rest

/-- The members of an object in their order. -/
def ofJsonMembers : List (String × Json) → List (String × Value)
  | [] => []
  | (k, j) :: rest => (k, ofJson j) :: ofJsonMembers rest

end

mutual

def toJson : Value → Json
  | .null => .null
  | .bool b => .bool b
  | .int n => .number (.integer n.toInt)
  | .float x => if x.isFinite then .number (.float x) else .null
  | .string s => .string s
  | .bytes b => .array (b.map fun byte => .number (.integer byte.toNat))
  | .list items => .array (toJsonItems items)
  | .map entries => .object (toJsonMembers entries)
  | .dateTime t => .string t.toText

def toJsonItems : List Value → List Json
  | [] => []
  | v :: rest => toJson v :: toJsonItems rest

def toJsonMembers : List (String × Value) → List (String × Json)
  | [] => []
  | (k, v) :: rest => (k, toJson v) :: toJsonMembers rest

end

end PropertyGraph.Value
