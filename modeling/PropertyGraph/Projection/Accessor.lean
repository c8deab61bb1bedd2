import PropertyGraph.Value.Path

/-!
# Accessors

An `Accessor` is a path that has been taken apart once, to be followed in many rows.  Empty
segments are left out, so that the empty path leads to the row itself.
-/

namespace PropertyGraph

/-- A segment of a path: a key, and an index if the key is the text of one. -/
structure AccessorSegment where
  key : String
  index : Option Nat
deriving DecidableEq

structure Accessor where
  path : String
  segments : List AccessorSegment
deriving DecidableEq

namespace Accessor

/-- The accessor of a path. -/
def compile (path : String) : Accessor :=
  let keys := (pathSegments path).filter fun key => !key.isEmpty
  ⟨path, keys.map fun key => ⟨key, Integer.natural? key.toList⟩⟩

/-- Follows one segment. -/
def step? (v : Value) (segment : AccessorSegment) : Option Value :=
  match v with
  | .map entries => Entries.find? segment.key entries
  | .list items => segment.index.bind fun i => items[i]?
  | _ => none

/-- The value that the accessor finds in a row. -/
def get? (a : Accessor) (row : Value) : Option Value := a.segments.foldlM step? row

end Accessor

end PropertyGraph
