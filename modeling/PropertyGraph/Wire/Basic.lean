import PropertyGraph.Collection.SortedMap
import PropertyGraph.Json.Basic

/-!
# The wire format

`Wire` types have a JSON form in which programs exchange them: `Wire.encode` writes it and
`Wire.decode?` reads it.  A record is written as an object with its fields as members.  It is read
from an object, in which unknown members are passed over and repeated ones refused, or from an
array of its fields in their order.

Some forms hold a word that says of what kind their contents are.  Where the contents stand before
the word they are kept until it is read, and are then read a little more freely; `Reading` tells
the two ways apart.
-/

namespace PropertyGraph

/-- How a form is read: as it comes, or after it was kept for a word behind it. -/
inductive Reading where
  | direct
  | kept
deriving DecidableEq

class Wire (α : Type) where
  encode : α → Json
  read? : Reading → Json → Option α

namespace Wire

variable {α β : Type}

/-- The value of a form that stands alone. -/
def decode? [Wire α] : Json → Option α := read? .direct

/-! ### Plain types -/

instance : Wire String := ⟨.string, fun _ => Json.string?⟩

instance : Wire Bool := ⟨.bool, fun _ => Json.bool?⟩

/-- Counts are below `2 ^ 64`. -/
instance : Wire Nat := ⟨Json.ofNat, fun _ => Json.count?⟩

instance : Wire Int64 := ⟨fun n => Json.ofInt n.toInt, fun _ => Json.int64?⟩

instance : Wire UInt8 where
  encode n := Json.ofNat n.toNat
  read? _ j := (j.count?.filter (· < 256)).map UInt8.ofNat

/-- A number that is not finite is written as null, which is not read back. -/
instance : Wire Binary64 where
  encode x := if x.isFinite then .number (.float x) else .null
  read?
    | _, .number n => some n.toBinary64
    | _, _ => none

instance [Wire α] : Wire (List α) where
  encode xs := .array (xs.map encode)
  read? r j := do (← j.array?).mapM (read? r)

/-- Nothing is written as null. -/
instance [Wire α] : Wire (Option α) where
  encode
    | some x => encode x
    | none => .null
  read?
    | _, .null => some none
    | r, j => (read? r j).map some

instance [Wire α] [Wire β] : Wire (α × β) where
  encode p := .array [encode p.1, encode p.2]
  read?
    | r, .array [a, b] => do return (← read? r a, ← read? r b)
    | _, _ => none

instance [Wire α] : Wire (SortedMap String α) where
  encode m := .object (m.entries.map fun (k, v) => (k, encode v))
  read? r j := do
    let entries ← (← j.object?).mapM fun (k, v) => do return (k, ← read? r v)
    return .ofList entries

/-! ### Records -/

/-- The parts of a record that have not been read yet. -/
inductive RecordParts where
  | members (members : List (String × Json))
  | items (items : List Json)

/-- Reads fields of a record one after the other. -/
abbrev RecordReader := ReaderT Reading (StateT RecordParts Option)

/-- Reads the form of a field. -/
def readField [Wire α] (j : Json) : RecordReader α := fun r parts =>
  (read? r j).map fun x => (x, parts)

/-- The value of the next field, if it is there. -/
def field? (name : String) : RecordReader (Option Json) := do
  match ← get with
  | .members members =>
    match members.filter fun m => m.1 == name with
    | [] => return none
    | [(_, j)] => return some j
    | _ => failure
  | .items [] => return none
  | .items (j :: rest) =>
    set (RecordParts.items rest)
    return some j

/-- A field that has to be there. -/
def required [Wire α] (name : String) : RecordReader α := do
  match ← field? name with
  | some j => readField j
  | none => failure

/-- A field that has a value where it is left out. -/
def withDefault [Wire α] (name : String) (value : α) : RecordReader α := do
  match ← field? name with
  | some j => readField j
  | none => return value

/-- A field that may be left out of an object, but not of an array. -/
def optional [Wire α] (name : String) : RecordReader (Option α) := do
  match ← get with
  | .members _ => withDefault name none
  | .items _ => required name

/-- Reads a record from its fields in order, with nothing behind them. -/
def readItems? (read : RecordReader α) (r : Reading) (items : List Json) : Option α :=
  match read r (.items items) with
  | some (x, .items []) => some x
  | _ => none

/-- Reads a record from an object or an array. -/
def readRecord? (read : RecordReader α) (r : Reading) : Json → Option α
  | .object members => (read r (.members members)).map (·.1)
  | .array items => readItems? read r items
  | _ => none

/-! ### Choices -/

/-- Nothing, as the contents of a word that has none. -/
def isNothing (r : Reading) : Json → Bool
  | .null => true
  | .object [] => r = .kept
  | _ => false

/-- Reads one of several words.  A word may also be written as an object with nothing as its only
member. -/
def readWord? (choices : List (String × α)) (r : Reading) : Json → Option α
  | .string s => Entries.find? s choices
  | .object [(s, j)] => if isNothing r j then Entries.find? s choices else none
  | _ => none

/-- Reads one of several words that name a kind.  Among kept contents the place of the word among
the choices may stand for it. -/
def readKind? (choices : List (String × α)) (r : Reading) (j : Json) : Option α :=
  match j with
  | .string s => Entries.find? s choices
  | _ => if r = .kept then do (choices[← j.count?]?).map (·.2) else none

/-- The form of a type whose values have names. -/
abbrev ofNames (all : List α) (name : α → String) : Wire α where
  encode x := .string (name x)
  read? := readWord? (all.map fun x => (name x, x))

/-- The value of a member, unless it is missing or repeated. -/
def soleMember? (name : String) (members : List (String × Json)) : Option Json :=
  match members.filter fun m => m.1 == name with
  | [(_, j)] => some j
  | _ => none

/-- How the contents of a kind are read: they are kept if they stand before the word for it. -/
def contentReading (tag content : String) (r : Reading) (members : List (String × Json)) :
    Reading :=
  match members.find? fun m => m.1 == tag || m.1 == content with
  | some (name, _) => if name = tag then r else .kept
  | none => r

/-- Writes one of several kinds of contents beside the word for its kind. -/
def besideTag (tag content : String) (word : String) (j : Json) : Json :=
  .object [(tag, .string word), (content, j)]

/-- Reads what `besideTag` writes; it may also be an array of the word and the contents. -/
def readBesideTag? (tag content : String)
    (choices : List (String × (Reading → Json → Option α))) (r : Reading) : Json → Option α
  | .object members => do
    let read ← readWord? choices r (← soleMember? tag members)
    read (contentReading tag content r members) (← soleMember? content members)
  | .array [word, j] => do (← readKind? choices r word) r j
  | _ => none

/-- Reads a record that holds the word for its kind as its first field.  All other fields are kept
until the word is known. -/
def readTagged? (tag : String) (choices : List (String × RecordReader α)) (r : Reading) :
    Json → Option α
  | .object members => do
    let read ← readKind? choices r (← soleMember? tag members)
    (read .kept (.members members)).map (·.1)
  | .array (word :: items) => do readItems? (← readKind? choices r word) .kept items
  | _ => none

end Wire

end PropertyGraph
