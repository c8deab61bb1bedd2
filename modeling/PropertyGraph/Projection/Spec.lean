import PropertyGraph.Error
import PropertyGraph.Projection.FieldType
import PropertyGraph.Value.Basic

/-!
# Specifications of projections

A `ProjectionSpec` says which fields of a row to take, under which names, and what to compute and
convert.
-/

namespace PropertyGraph

/-- A field computed from the row and the fields so far.  A computation may fail. -/
structure ComputedField where
  name : String
  compute : Value → PropertyMap → Option Value

structure ProjectionSpec where
  /-- The paths to take; a specification without them is refused when it is used. -/
  fields : Option (List String) := none
  /-- Paths and the names they get. -/
  aliases : List (String × String) := []
  computed : List ComputedField := []
  /-- Names of fields and the types they are converted to. -/
  coercions : List (String × FieldType) := []

namespace ProjectionSpec

/-- The name of a path: its last alias, or the path itself. -/
def outputName (spec : ProjectionSpec) (path : String) : String :=
  ((spec.aliases.reverse.find? fun a => a.1 == path).map (·.2)).getD path

/-- The fields that are named in a record. -/
def fieldsOf? (record : Json) : Except Error (Option (List String)) :=
  match record.member? "fields" with
  | none => .ok none
  | some (.array items) => do
    let names ← items.mapM fun item =>
      match item with
      | .string s => Except.ok s
      | _ => .error (.invalidSpec (.fieldNotAString item))
    return some names
  | some _ => .error (.invalidSpec .fieldsNotAnArray)

/-- The members of an object under a name; anything else has none. -/
def membersOf (record : Json) (name : String) : List (String × Json) :=
  ((record.member? name).bind Json.object?).getD []

/-- The alias that a member stands for. -/
def aliasOf (path : String) (name : Json) : Except Error (String × String) :=
  match name with
  | .string s => .ok (path, s)
  | _ => .error (.invalidSpec (.aliasNotAString path))

/-- The conversion that a member stands for. -/
def coercionOf (field : String) (type : Json) : Except Error (String × FieldType) :=
  match type.string?.bind FieldType.ofName? with
  | some t => .ok (field, t)
  | none => .error (.invalidSpec (.unknownType type field))

/-- The specification that a JSON object describes; it has no computed fields. -/
def ofJson (record : Json) : Except Error ProjectionSpec := do
  match record with
  | .object _ =>
    let fields ← fieldsOf? record
    let aliases ← (membersOf record "aliases").mapM fun (path, name) => aliasOf path name
    let coercions ← (membersOf record "coerce").mapM fun (field, type) => coercionOf field type
    return { fields, aliases, coercions }
  | _ => throw (.invalidSpec .notAnObject)

end ProjectionSpec

end PropertyGraph
