import PropertyGraph.Numeric.Integer
import PropertyGraph.Text.Blank
import PropertyGraph.Value.Text

/-!
# Types of output fields

`FieldType.coerce` converts a value to the type of an output field; what cannot be converted
becomes null.
-/

namespace PropertyGraph

inductive FieldType where
  | string
  | integer
  | float
  | boolean
deriving DecidableEq

namespace FieldType

def name : FieldType → String
  | .string => "string"
  | .integer => "integer"
  | .float => "float"
  | .boolean => "boolean"

/-- A text with its ASCII letters in lower case. -/
def lowercase (text : String) : String := String.ofList (text.toList.map Char.toLower)

/-- The type of a name in any case. -/
def ofName? (name : String) : Option FieldType :=
  let name := lowercase name
  if name = "string" then some .string
  else if name = "integer" ∨ name = "int" then some .integer
  else if name = "float" ∨ name = "number" then some .float
  else if name = "boolean" ∨ name = "bool" then some .boolean
  else none

/-- The integer of a text: the one it denotes, or the whole part of the number it denotes held
within the bounds. -/
def integerOfText (text : String) : Value :=
  let trimmed := Text.trim text.toList
  match Integer.int64? trimmed with
  | some n => .int n
  | none =>
    match Binary64.ofText? trimmed with
    | some x => .int x.toInt64
    | none => .null

def toInteger : Value → Value
  | .int n => .int n
  | .float x => if x.isFinite then .int x.toInt64 else .null
  | .bool b => .int (if b then 1 else 0)
  | .string s => integerOfText s
  | _ => .null

def toFloat : Value → Value
  | .float x => .float x
  | .int n => .float (Binary64.ofInt n.toInt)
  | .bool b => .float (Binary64.ofNat (if b then 1 else 0))
  | .string s =>
    match Binary64.ofText? (Text.trim s.toList) with
    | some x => .float x
    | none => .null
  | _ => .null

/-- The words for true and false, else null. -/
def booleanOfText (text : String) : Value :=
  let word := lowercase (String.ofList (Text.trim text.toList))
  if word = "true" ∨ word = "yes" ∨ word = "1" then .bool true
  else if word = "false" ∨ word = "no" ∨ word = "0" ∨ word = "" then .bool false
  else .null

def toBoolean : Value → Value
  | .string s => booleanOfText s
  | v => .bool v.isTruthy

def toText : Value → Value
  | .string s => .string s
  | v => .string v.toText

/-- Converts a value to a type; null stays null. -/
def coerce (type : FieldType) (v : Value) : Value :=
  if v.isNull then .null
  else
    match type with
    | .string => toText v
    | .integer => toInteger v
    | .float => toFloat v
    | .boolean => toBoolean v

end FieldType

end PropertyGraph
