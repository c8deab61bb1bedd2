import PropertyGraph.Graph.Path
import PropertyGraph.Wire.Value

/-!
# Graph elements on the wire

Labels and properties may be left out when an element is read.
-/

namespace PropertyGraph

open Wire (encode ofNames readRecord? required withDefault)

instance : Wire Direction := ofNames [.outgoing, .incoming, .both] Direction.name

instance : Wire Node where
  encode n := .object [
    ("id", encode n.id), ("labels", encode n.labels), ("properties", encode n.properties)]
  read? := readRecord? do
    return ⟨← required "id", ← withDefault "labels" [], ← withDefault "properties" .empty⟩

instance : Wire EdgeKey where
  encode k := .object [
    ("from", encode k.source), ("to", encode k.target), ("label", encode k.label)]
  read? := readRecord? do return ⟨← required "from", ← required "to", ← required "label"⟩

instance : Wire Edge where
  encode e := .object [
    ("from", encode e.source), ("to", encode e.target), ("label", encode e.label),
    ("properties", encode e.properties)]
  read? := readRecord? do
    return ⟨← required "from", ← required "to", ← required "label",
      ← withDefault "properties" .empty⟩

instance : Wire Path where
  encode p := .object [("nodes", encode p.nodes), ("edges", encode p.edges)]
  read? := readRecord? do return ⟨← required "nodes", ← required "edges"⟩

end PropertyGraph
