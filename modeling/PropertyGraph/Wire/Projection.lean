import PropertyGraph.Projection.FieldType
import PropertyGraph.Wire.Basic

/-!
# Types of output fields on the wire
-/

namespace PropertyGraph

instance : Wire FieldType := Wire.ofNames [.string, .integer, .float, .boolean] FieldType.name

end PropertyGraph
