import PropertyGraph.Collection.SortedMap

/-!
# Index hints

A hint names an index that would speed a plan up; no plan needs one.
-/

namespace PropertyGraph

inductive IndexType where
  | label
  | property
  | sort
  | edgeType
  | fullText
deriving DecidableEq

namespace IndexType

/-- What the names of hints of the type start with. -/
def tag : IndexType → String
  | .label => "label"
  | .property => "property"
  | .sort => "sort"
  | .edgeType => "edge_type"
  | .fullText => "fulltext"

def name : IndexType → String
  | .label => "Label"
  | .property => "Property"
  | .sort => "Sort"
  | .edgeType => "EdgeType"
  | .fullText => "FullText"

/-- The place in the order of types. -/
def rank : IndexType → Nat
  | .label => 0
  | .property => 1
  | .sort => 2
  | .edgeType => 3
  | .fullText => 4

end IndexType

structure IndexHint where
  name : String
  indexType : IndexType
deriving DecidableEq

namespace IndexHint

def of (indexType : IndexType) (target : String) : IndexHint :=
  ⟨indexType.tag ++ ":" ++ target, indexType⟩

/-- Hints are ordered by name, then by type. -/
instance : Ord IndexHint :=
  ⟨compareLex (compareOn name) (compareOn fun h => h.indexType.rank)⟩

instance : Std.TransOrd IndexHint :=
  inferInstanceAs
    (Std.TransCmp (compareLex (compareOn name) (compareOn fun h => h.indexType.rank)))

/-- The hints of a list in order, each once. -/
def sortedUnique (hints : List IndexHint) : List IndexHint :=
  (SortedMap.ofList (hints.map fun h => (h, ()))).keys

end IndexHint

end PropertyGraph
