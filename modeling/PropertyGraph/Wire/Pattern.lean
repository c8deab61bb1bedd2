import PropertyGraph.Pattern.Bindings
import PropertyGraph.Pattern.Basic
import PropertyGraph.Wire.Query

/-!
# Patterns and bindings on the wire
-/

namespace PropertyGraph

open Wire (encode read? optional readBesideTag? readRecord? required)

instance : Wire PropertyConstraint where
  encode c := .object [
    ("key", encode c.key), ("operator", encode c.operator), ("value", encode c.operand)]
  read? := readRecord? do
    return ⟨← required "key", ← required "operator", ← required "value"⟩

instance : Wire NodePattern where
  encode p := .object [
    ("variable", encode p.name), ("labels", encode p.labels),
    ("properties", encode p.constraints)]
  read? := readRecord? do
    return ⟨← optional "variable", ← required "labels", ← required "properties"⟩

instance : Wire RelationshipPattern where
  encode p := .object [
    ("variable", encode p.name), ("types", encode p.types), ("direction", encode p.direction),
    ("properties", encode p.constraints), ("min_hops", encode p.minHops),
    ("max_hops", encode p.maxHops)]
  read? := readRecord? do
    return ⟨← optional "variable", ← required "types", ← required "direction",
      ← required "properties", ← optional "min_hops", ← optional "max_hops"⟩

instance : Wire PathPattern where
  encode p := .object [("start", encode p.start), ("segments", encode p.segments)]
  read? := readRecord? do return ⟨← required "start", ← required "segments"⟩

instance : Wire Binding where
  encode
    | .node n => Wire.besideTag "type" "value" "Node" (encode n)
    | .edge e => Wire.besideTag "type" "value" "Edge" (encode e)
    | .path p => Wire.besideTag "type" "value" "Path" (encode p)
  read? := readBesideTag? "type" "value" [
    ("Node", fun r j => (read? r j).map .node), ("Edge", fun r j => (read? r j).map .edge),
    ("Path", fun r j => (read? r j).map .path)]

end PropertyGraph
