import PropertyGraph.Value.Basic
import PropertyGraph.Wire.Basic

/-!
# Values on the wire

A value is written with the word for its kind as `type` and its contents as `value`; null has no
contents.  An instant is written as a date and time in universal time.
-/

namespace PropertyGraph

instance : Wire Instant where
  encode t := .string t.toZuluText
  read? _ j := do Instant.ofText? (← j.string?)

/-- The kinds of values that are told apart on the wire. -/
inductive ValueKind where
  | null
  | bool
  | int
  | float
  | string
  | bytes
  | list
  | map
  | dateTime
deriving DecidableEq

namespace ValueKind

def all : List ValueKind :=
  [.null, .bool, .int, .float, .string, .bytes, .list, .map, .dateTime]

def word : ValueKind → String
  | .null => "Null"
  | .bool => "Bool"
  | .int => "Int"
  | .float => "Float"
  | .string => "String"
  | .bytes => "Bytes"
  | .list => "List"
  | .map => "Map"
  | .dateTime => "DateTime"

/-- The words for the kinds. -/
def words : List (String × ValueKind) := all.map fun kind => (kind.word, kind)

end ValueKind

namespace Value

/-- The contents of a value beside its kind. -/
def withKind (kind : ValueKind) (contents : Json) : Json :=
  Wire.besideTag "type" "value" kind.word contents

mutual

def toWire : Value → Json
  | .null => .object [("type", .string ValueKind.null.word)]
  | .bool b => withKind .bool (Wire.encode b)
  | .int n => withKind .int (Wire.encode n)
  | .float x => withKind .float (Wire.encode x)
  | .string s => withKind .string (Wire.encode s)
  | .bytes b => withKind .bytes (Wire.encode b)
  | .list items => withKind .list (.array (toWireItems items))
  | .map entries => withKind .map (.object (toWireEntries entries))
  | .dateTime t => withKind .dateTime (Wire.encode t)

def toWireItems : List Value → List Json
  | [] => []
  | v :: rest => toWire v :: toWireItems rest

def toWireEntries : List (String × Value) → List (String × Json)
  | [] => []
  | (k, v) :: rest => (k, toWire v) :: toWireEntries rest

end

/-- The value of a kind whose contents hold no other values. -/
def plainOfWire? (kind : ValueKind) (contents : Json) : Option Value :=
  match kind with
  | .null => if contents.isNull then some .null else none
  | .bool => (Wire.decode? contents).map .bool
  | .int => (Wire.decode? contents).map .int
  | .float => (Wire.decode? contents).map .float
  | .string => (Wire.decode? contents).map .string
  | .bytes => (Wire.decode? contents).map .bytes
  | .dateTime => (Wire.decode? contents).map .dateTime
  | .list | .map => none

mutual

def ofWire? (r : Reading) : Json → Option Value
  | .object members => do
    let kind ← Wire.readWord? ValueKind.words r (← Wire.soleMember? "type" members)
    ofWireMembers? kind (Wire.contentReading "type" "value" r members) members
  | .array [word, contents] => do
    let kind ← Wire.readKind? ValueKind.words r word
    ofWireContents? kind r contents
  | _ => none

/-- The value of a kind whose contents are among the members of an object. -/
def ofWireMembers? (kind : ValueKind) (r : Reading) : List (String × Json) → Option Value
  | [] => if kind = .null then some .null else none
  | (name, contents) :: rest =>
    if name = "value" then
      if (rest.any fun m => m.1 == "value") then none else ofWireContents? kind r contents
    else ofWireMembers? kind r rest

/-- The value of a kind with the given contents. -/
def ofWireContents? (kind : ValueKind) (r : Reading) : Json → Option Value
  | .array items =>
    if kind = .list then (ofWireItems? r items).map .list else plainOfWire? kind (.array items)
  | .object members =>
    if kind = .map then (ofWireEntries? r members).map ofEntries else none
  | contents => plainOfWire? kind contents

def ofWireItems? (r : Reading) : List Json → Option (List Value)
  | [] => some []
  | j :: rest => do return (← ofWire? r j) :: (← ofWireItems? r rest)

def ofWireEntries? (r : Reading) : List (String × Json) → Option (List (String × Value))
  | [] => some []
  | (k, j) :: rest => do return (k, ← ofWire? r j) :: (← ofWireEntries? r rest)

end

instance : Wire Value := ⟨toWire, ofWire?⟩

end Value

end PropertyGraph
