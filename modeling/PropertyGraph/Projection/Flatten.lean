import PropertyGraph.Value.Basic

/-!
# Flattening rows

`Value.flattened` turns nested maps into one map whose keys are paths.
-/

namespace PropertyGraph.Value

/-- A key below a path; the empty path adds nothing. -/
def pathTo (path key : String) : String := if path.isEmpty then key else path ++ "." ++ key

mutual

/-- Adds what lies below a path to the entries before it.  Maps are opened down to a depth. -/
def flattenInto (path : String) (depth : Nat) (before : PropertyMap) : Value → PropertyMap
  | .map entries =>
    match depth with
    | 0 => before.insert path (.map entries)
    | depth + 1 => flattenEntries path depth before entries
  | v => before.insert path v

/-- Adds what lies below each of the entries of a map. -/
def flattenEntries (path : String) (depth : Nat) (before : PropertyMap) :
    List (String × Value) → PropertyMap
  | [] => before
  | (key, v) :: rest =>
    flattenEntries path depth (flattenInto (pathTo path key) depth before v) rest

end

/-- The row with its nested maps opened down to a depth of at least one.  A row that is no map
becomes the field `value`. -/
def flattened (depth : Nat) (row : Value) : PropertyMap :=
  match row with
  | .map entries => flattenInto "" (max depth 1) .empty (.map entries)
  | v => SortedMap.empty.insert "value" v

end PropertyGraph.Value
