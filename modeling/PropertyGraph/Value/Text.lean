import PropertyGraph.Numeric.Decimal
import PropertyGraph.Value.Basic

/-!
# The text of a value

`Value.toText` shows a value in messages and where a value is coerced to a string.
-/

namespace PropertyGraph.Value

/-- A quote within a string stands after a backslash. -/
def quotedText (s : String) : String :=
  String.ofList ('\x22' :: s.toList.flatMap (fun c => if c = '\x22' then ['\\', c] else [c]) ++
    ['\x22'])

mutual

/-- Strings stand in quotes, lists in brackets, and maps in braces in the order of their keys. -/
def toText : Value → String
  | .null => "null"
  | .bool b => if b then "true" else "false"
  | .int n => toString n.toInt
  | .float x => x.positional
  | .string s => quotedText s
  | .bytes b => "<bytes[" ++ toString b.length ++ "]>"
  | .list items => "[" ++ itemsText items ++ "]"
  | .map entries => "\x7b" ++ entriesText entries ++ "\x7d"
  | .dateTime t => t.toText

def itemsText : List Value → String
  | [] => ""
  | [v] => toText v
  | v :: rest => toText v ++ ", " ++ itemsText rest

def entriesText : List (String × Value) → String
  | [] => ""
  | [(k, v)] => k ++ ": " ++ toText v
  | (k, v) :: rest => k ++ ": " ++ toText v ++ ", " ++ entriesText rest

end

end PropertyGraph.Value
