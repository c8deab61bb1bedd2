import PropertyGraph.Collection.SortedMap
import PropertyGraph.Json.Reader

/-!
# Reading records from JSON text

`Json.readRecord?` reads a text that has to be a record whose fields are known beforehand.  The
fields are read, each in its own way; everything else in the record is passed over.  What is passed
over has to be written as JSON, but it is not read: its numbers may be out of range, its strings
may hold half of a surrogate pair, and it may be nested to any depth.
-/

namespace PropertyGraph.Json.Reader

/-! ### Passing over values -/

/-- The text after the closing quote of a string.  Only the digits of a `\u` escape are looked at,
not what they stand for. -/
def skipString : List Char → Option (List Char)
  | '\x22' :: rest => some rest
  | '\\' :: 'u' :: a :: b :: c :: d :: rest =>
    if [a, b, c, d].all fun x => (hexValue? x).isSome then skipString rest else none
  | '\\' :: c :: rest =>
    if c ∈ ['\x22', '\\', '/', 'b', 'f', 'n', 'r', 't'] then skipString rest else none
  | c :: rest => if c.toNat < 32 then none else skipString rest
  | [] => none

/-- The text after at least one digit. -/
def skipDigits (text : List Char) : Option (List Char) :=
  match text with
  | c :: rest => if c.isDigit then some (rest.dropWhile Char.isDigit) else none
  | [] => none

/-- The text after an exponent part, if there is one. -/
def skipExponent (text : List Char) : Option (List Char) :=
  match text with
  | c :: rest =>
    if c = 'e' ∨ c = 'E' then
      match rest with
      | '+' :: rest => skipDigits rest
      | '-' :: rest => skipDigits rest
      | rest => skipDigits rest
    else some text
  | [] => some []

/-- The text after a number without its sign. -/
def skipUnsigned (text : List Char) : Option (List Char) := do
  let rest ←
    match text with
    | '0' :: c :: rest => if c.isDigit then none else some (c :: rest)
    | _ => skipDigits text
  match rest with
  | '.' :: rest => skipDigits rest >>= skipExponent
  | rest => skipExponent rest

mutual

/-- The text after a value. -/
def skipValue (fuel : Nat) (text : List Char) : Option (List Char) :=
  match fuel with
  | 0 => none
  | fuel + 1 =>
    match skipBlanks text with
    | [] => none
    | c :: rest =>
      if c = '\x22' then skipString rest
      else if c = '[' then
        match skipBlanks rest with
        | ']' :: rest => some rest
        | rest => skipElements fuel rest
      else if c = '\x7b' then
        match skipBlanks rest with
        | '\x7d' :: rest => some rest
        | rest => skipMembers fuel rest
      else if c = 'n' then keyword ['u', 'l', 'l'] rest
      else if c = 't' then keyword ['r', 'u', 'e'] rest
      else if c = 'f' then keyword ['a', 'l', 's', 'e'] rest
      else if c = '-' then skipUnsigned rest
      else skipUnsigned (c :: rest)

/-- The text after the elements of an array and its bracket. -/
def skipElements (fuel : Nat) (text : List Char) : Option (List Char) :=
  match fuel with
  | 0 => none
  | fuel + 1 =>
    match (skipValue fuel text).map skipBlanks with
    | some (',' :: rest) => skipElements fuel rest
    | some (']' :: rest) => some rest
    | _ => none

/-- The text after the members of an object and its brace. -/
def skipMembers (fuel : Nat) (text : List Char) : Option (List Char) :=
  match fuel with
  | 0 => none
  | fuel + 1 =>
    match skipBlanks text with
    | '\x22' :: rest =>
      match (skipString rest).map skipBlanks with
      | some (':' :: rest) =>
        match (skipValue fuel rest).map skipBlanks with
        | some (',' :: rest) => skipMembers fuel rest
        | some ('\x7d' :: rest) => some rest
        | _ => none
      | _ => none
    | _ => none

end

/-! ### Records -/

/-- Reads the member of an object with a given name, or passes over it if there is no such field. -/
def recordMember (fields : List (String × Step Json)) (name : String) :
    Step (List (String × Json)) := fun text =>
  match Entries.find? name fields with
  | some read => (read text).map fun (item, rest) => ([(name, item)], rest)
  | none => (skipValue (fuelFor text) text).map fun rest => ([], rest)

/-- Reads the members of an object up to its brace, given those read so far. -/
def recordMembers (fuel : Nat) (fields : List (String × Step Json)) (acc : List (String × Json)) :
    Step Json := fun text =>
  match fuel with
  | 0 => none
  | fuel + 1 => do
    let (name, rest) ← stringLiteral (skipBlanks text)
    match skipBlanks rest with
    | ':' :: rest =>
      let (found, rest) ← recordMember fields name rest
      match skipBlanks rest with
      | ',' :: rest => recordMembers fuel fields (acc ++ found) rest
      | '\x7d' :: rest => some (.object (acc ++ found), rest)
      | _ => none
    | _ => none

/-- Reads the elements of an array up to its bracket, each as the field in its place, given those
read so far. -/
def recordItems (fields : List (String × Step Json)) (acc : List Json) : Step Json := fun text =>
  match fields with
  | [] => none
  | (_, read) :: fields => do
    let (item, rest) ← read text
    match skipBlanks rest with
    | ',' :: rest => recordItems fields (acc ++ [item]) rest
    | ']' :: rest => some (.array (acc ++ [item]), rest)
    | _ => none

/-- Reads a record with the given fields: an object, of which all other members are left out, or an
array with the fields in their order. -/
def record (fields : List (String × Step Json)) : Step Json := fun text =>
  match skipBlanks text with
  | '[' :: rest =>
    match skipBlanks rest with
    | ']' :: rest => some (.array [], rest)
    | rest => recordItems fields [] rest
  | '\x7b' :: rest =>
    match skipBlanks rest with
    | '\x7d' :: rest => some (.object [], rest)
    | rest => recordMembers (fuelFor rest) fields [] rest
  | _ => none

end PropertyGraph.Json.Reader

namespace PropertyGraph.Json

/-- The fields of the record that a text holds, if it is one.  Repeated fields are kept. -/
def readRecord? (fields : List (String × Reader.Step Json)) (text : String) : Option Json :=
  Reader.all? (Reader.record fields) text

end PropertyGraph.Json
