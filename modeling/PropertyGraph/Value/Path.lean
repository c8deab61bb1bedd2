import PropertyGraph.Numeric.Integer
import PropertyGraph.Value.Basic

/-!
# Paths into values

A path is a text of segments with dots between them, such as `properties.name` or `tags.0`.  A
segment is a key of a map or an index into a list.  `Value.lookup?` is how filters, sorting and
aggregation find a field: by the path as given, and if that fails below `properties`, so that
`age` finds the property of that name in the row of a node.
-/

namespace PropertyGraph

/-- The parts of a text between the occurrences of a character. -/
def splitOn (mark : Char) : List Char → List (List Char)
  | [] => [[]]
  | c :: rest =>
    if c = mark then [] :: splitOn mark rest
    else
      match splitOn mark rest with
      | [] => [[c]]
      | first :: others => (c :: first) :: others

/-- The segments of a path; a path without dots is one segment. -/
def pathSegments (path : String) : List String := (splitOn '.' path.toList).map String.ofList

namespace Value

/-- Follows one segment. -/
def segment? (v : Value) (segment : String) : Option Value :=
  match v with
  | .map entries => Entries.find? segment entries
  | .list items => (Integer.natural? segment.toList).bind fun i => items[i]?
  | _ => none

/-- Follows segments one after the other. -/
def follow? (v : Value) : List String → Option Value
  | [] => some v
  | segment :: rest => (v.segment? segment).bind fun w => w.follow? rest

/-- The value at the end of a path. -/
def path? (v : Value) (path : String) : Option Value := v.follow? (pathSegments path)

/-- The field of a row: the value at the path, or at the path below `properties`. -/
def lookup? (row : Value) (field : String) : Option Value :=
  match row.path? field with
  | some v => some v
  | none =>
    match row with
    | .map entries => (Entries.find? "properties" entries).bind fun p => p.path? field
    | _ => none

end Value

end PropertyGraph
