import PropertyGraph.Json.Printer

/-!
# What can be wrong with a projection specification
-/

namespace PropertyGraph

inductive SpecFault where
  | notAnObject
  | fieldsNotAnArray
  | fieldNotAString (given : Json)
  | aliasNotAString (path : String)
  | unknownType (given : Json) (field : String)
  | noFields

def SpecFault.message : SpecFault → String
  | .notAnObject => "projection spec must be an object"
  | .fieldsNotAnArray => "fields must be an array"
  | .fieldNotAString given => "field " ++ given.compact ++ " is not a string"
  | .aliasNotAString path => "alias for " ++ path ++ " must be a string"
  | .unknownType given field => "unknown type " ++ given.compact ++ " for " ++ field
  | .noFields => "projection spec has no fields"

end PropertyGraph
