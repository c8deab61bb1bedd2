import PropertyGraph.Graph.Element
import PropertyGraph.Numeric.Decimal
import PropertyGraph.Text.Printable

/-!
# Rollback data and its text

`RollbackData` is what was read from a store before a change.  `RollbackData.literal` shows it with
all of its contents, where a message has to say what was captured.
-/

namespace PropertyGraph

/-- What is known of the store from before a mutation. -/
inductive RollbackData where
  /-- Nothing is needed. -/
  | nothing
  /-- What is changed was created by the same transaction. -/
  | createdInTransaction
  /-- A node that is removed and the edges that touched it. -/
  | removedNode (node : Node) (edges : List Edge)
  | removedEdge (edge : Edge)
  /-- The values of the properties that are changed; null for those that were not there. -/
  | previousProperties (previous : PropertyMap)

namespace Literal

/-! ### Texts -/

def hexDigits (n : Nat) : List Char := Nat.toDigits 16 n

/-- A character within quotes; characters that do not stand for themselves are shown by their code
points. -/
def escaped (c : Char) : List Char :=
  if c = '\x22' ∨ c = '\\' then ['\\', c]
  else if c = '\n' then ['\\', 'n']
  else if c = '\r' then ['\\', 'r']
  else if c = '\t' then ['\\', 't']
  else if c.toNat = 0 then ['\\', '0']
  else if Text.isShown c then [c]
  else ['\\', 'u', '\x7b'] ++ hexDigits c.toNat ++ ['\x7d']

def quoted (s : String) : String :=
  String.ofList ('\x22' :: s.toList.flatMap escaped ++ ['\x22'])

/-- Some parts between brackets. -/
def bracketed (parts : List String) : String := "[" ++ String.intercalate ", " parts ++ "]"

/-- The entries of a map between braces. -/
def braced (entries : List (String × String)) : String :=
  "\x7b" ++ String.intercalate ", " (entries.map fun (k, v) => quoted k ++ ": " ++ v) ++ "\x7d"

/-- A name with one part. -/
def wrapped (name part : String) : String := name ++ "(" ++ part ++ ")"

/-- A name with named fields. -/
def fields (name : String) (parts : List (String × String)) : String :=
  name ++ " \x7b " ++ String.intercalate ", " (parts.map fun (k, v) => k ++ ": " ++ v) ++ " \x7d"

end Literal

/-! ### Values and elements -/

namespace Value

open Literal (braced bracketed quoted wrapped)

mutual

def literal : Value → String
  | .null => "Null"
  | .bool b => wrapped "Bool" (if b then "true" else "false")
  | .int n => wrapped "Int" (toString n.toInt)
  | .float x => wrapped "Float" x.literal
  | .string s => wrapped "String" (quoted s)
  | .bytes b => wrapped "Bytes" (bracketed (b.map fun n => toString n.toNat))
  | .list items => wrapped "List" (bracketed (literalItems items))
  | .map entries => wrapped "Map" (braced (literalEntries entries))
  | .dateTime t => wrapped "DateTime" t.toZuluText

def literalItems : List Value → List String
  | [] => []
  | v :: rest => literal v :: literalItems rest

def literalEntries : List (String × Value) → List (String × String)
  | [] => []
  | (k, v) :: rest => (k, literal v) :: literalEntries rest

end

/-- The text of a property map. -/
def literalProperties (properties : PropertyMap) : String :=
  braced (literalEntries properties.entries)

end Value

open Literal (bracketed fields quoted wrapped)

def Node.literal (n : Node) : String :=
  fields "Node" [("id", wrapped "NodeId" (quoted n.id)),
    ("labels", bracketed (n.labels.map quoted)),
    ("properties", Value.literalProperties n.properties)]

def Edge.literal (e : Edge) : String :=
  fields "Edge" [("from", wrapped "NodeId" (quoted e.source)),
    ("to", wrapped "NodeId" (quoted e.target)), ("label", quoted e.label),
    ("properties", Value.literalProperties e.properties)]

/-- The text of rollback data with all that it holds. -/
def RollbackData.literal : RollbackData → String
  | .nothing => "Nothing"
  | .createdInTransaction => "CreatedInTransaction"
  | .removedNode n edges =>
    fields "RemovedNode" [("node", n.literal), ("edges", bracketed (edges.map Edge.literal))]
  | .removedEdge e => fields "RemovedEdge" [("edge", e.literal)]
  | .previousProperties previous =>
    fields "PreviousProperties" [("previous", Value.literalProperties previous)]

end PropertyGraph
