import PropertyGraph.Projection.Accessor
import PropertyGraph.Projection.Flatten
import PropertyGraph.Projection.Spec

/-!
# Projecting rows

A `Projector` applies specifications to rows.  It keeps the accessors of the paths it has met, and
an operation on it returns what it has become beside its result.
-/

namespace PropertyGraph

structure ProjectorConfig where
  /-- The depth to which rows are flattened where none is given. -/
  flattenDepth : Nat := 5
  cacheAccessors : Bool := true

structure Projector where
  config : ProjectorConfig := {}
  accessors : SortedMap String Accessor := .empty

/-- Projected rows and the names of their fields. -/
structure Projection where
  data : List Value
  fields : List String

def Projection.count (p : Projection) : Nat := p.data.length

/-! ### Rows -/

namespace ProjectionSpec

/-- The fields taken from a row by accessors, under their names; what is missing is null. -/
def taken (accessors : List (Accessor × String)) (row : Value) : PropertyMap :=
  accessors.foldl (fun out (a, name) => out.insert name ((a.get? row).getD .null)) .empty

/-- Adds the computed fields, each from those before it; a failed one is null. -/
def withComputed (spec : ProjectionSpec) (row : Value) (out : PropertyMap) : PropertyMap :=
  spec.computed.foldl (fun out c => out.insert c.name ((c.compute row out).getD .null)) out

/-- Converts the fields that are there. -/
def withCoercions (spec : ProjectionSpec) (out : PropertyMap) : PropertyMap :=
  spec.coercions.foldl
    (fun out (name, type) =>
      match out.find? name with
      | some v => out.insert name (type.coerce v)
      | none => out) out

/-- A row projected by accessors. -/
def row (spec : ProjectionSpec) (accessors : List (Accessor × String)) (row : Value) :
    PropertyMap :=
  spec.withCoercions (spec.withComputed row (taken accessors row))

end ProjectionSpec

/-! ### Projectors -/

namespace Projector

/-- The paths whose accessors are kept, in order. -/
def cachedPaths (p : Projector) : List String := p.accessors.keys

/-- Forgets all accessors. -/
def cleared (p : Projector) : Projector := { p with accessors := .empty }

/-- The accessor of a path, which is kept if the configuration says so. -/
def accessor (path : String) : StateM Projector Accessor := do
  let p ← get
  if p.config.cacheAccessors then
    match p.accessors.find? path with
    | some a => return a
    | none =>
      let a := Accessor.compile path
      set { p with accessors := p.accessors.insert path a }
      return a
  else return Accessor.compile path

/-- Projects rows to the given paths. -/
def projectPaths (paths : List String) (rows : List Value) (spec : ProjectionSpec) :
    StateM Projector Projection := do
  let accessors ← paths.mapM fun path => do return (← accessor path, spec.outputName path)
  let names := accessors.map (·.2) ++ spec.computed.map (·.name)
  return ⟨rows.map fun row => .ofProperties (spec.row accessors row), names.eraseDups⟩

/-- Projects rows by a specification. -/
def project (rows : List Value) (spec : ProjectionSpec) :
    StateM Projector (Except Error Projection) := do
  match spec.fields with
  | some paths => return .ok (← projectPaths paths rows spec)
  | none => return .error (.invalidSpec .noFields)

/-- The path before a wildcard; the wildcard alone stands behind the empty path. -/
def wildcard? (path : String) : Option String :=
  if path = "*" then some ""
  else
    match path.toList.reverse with
    | '*' :: '.' :: rest => some (String.ofList rest.reverse)
    | _ => none

/-- What stands at a path in a row; the empty path leads to the row itself. -/
def targetOf (path : String) (row : Value) : StateM Projector (Option Value) := do
  if path.isEmpty then return some row else return (← accessor path).get? row

/-- The paths that a path stands for: those of the keys which a wildcard finds in the first row. -/
def expanded (rows : List Value) (path : String) : StateM Projector (List String) := do
  match wildcard? path with
  | none => return [path]
  | some parent =>
    match rows with
    | [] => return []
    | row :: _ =>
      let target ← targetOf parent row
      let keys := ((target.bind Value.map?).getD []).map (·.1)
      return keys.map (Value.pathTo parent)

/-- Projects rows by a specification whose paths may have wildcards. -/
def projectWithWildcards (rows : List Value) (spec : ProjectionSpec) :
    StateM Projector (Except Error Projection) := do
  match spec.fields with
  | some paths =>
    let paths := (← paths.mapM (expanded rows)).flatten
    return .ok (← projectPaths paths rows spec)
  | none => return .error (.invalidSpec .noFields)

/-- Flattens rows to a depth, that of the configuration if none is given.  The fields are all keys
in order. -/
def projectFlattened (p : Projector) (rows : List Value) (depth : Option Nat) : Projection :=
  let flattened := rows.map (Value.flattened (depth.getD p.config.flattenDepth))
  let keys := (flattened.flatMap SortedMap.keys).map fun key => (key, ())
  ⟨flattened.map Value.ofProperties, (SortedMap.ofList keys).keys⟩

end Projector

end PropertyGraph
