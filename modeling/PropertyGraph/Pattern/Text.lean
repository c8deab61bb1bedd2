import PropertyGraph.Numeric.Integer
import PropertyGraph.Pattern.Basic
import PropertyGraph.Pattern.Token

/-!
# Reading patterns

`PathPattern.ofText` reads the text of a pattern, such as
`(p:Person)-[r:KNOWS|LIKES *1..3]->(q)`, by the grammar

    path  := node (hop node)*
    node  := '(' name? (':' name)* props? ')'
    hop   := ('-' | '<-') ('[' name? (':' name ('|' ':'? name)*)? hops? props? ']')? ('->' | '-')
    hops  := '*' count? ('..' count?)?
    props := '{' (name ':' literal (',' name ':' literal)*)? '}'

in which a hop does not point both ways.  A reader takes tokens from the front of a list; what it
reports is placed at the first token it has not taken.
-/

namespace PropertyGraph

/-- Takes a part of a pattern from the front of a list of tokens. -/
abbrev PatternReader := StateT (List Token) (Except Error)

namespace PatternReader

/-! ### Tokens -/

/-- The kind of the next token. -/
def nextKind : PatternReader TokenKind := do
  return ((← get).head?.map Token.kind).getD .endOfText

/-- The text of the next token. -/
def nextText : PatternReader String := do
  return ((← get).head?.map Token.text).getD ""

/-- Takes the next token, whatever it is. -/
def skip : PatternReader Unit := modify List.tail

/-- Reports a fault at the next token. -/
def fail {α : Type} (fault : SyntaxFault) : PatternReader α := do
  throw (.patternSyntax (((← get).head?.map Token.start).getD 0) fault)

/-- Takes the next token if it is of a kind. -/
def eat (kind : TokenKind) : PatternReader Bool := do
  if (← nextKind) = kind then
    skip
    return true
  else return false

/-- Takes the next token, which has to be of a kind, and returns its text. -/
def expect (kind : TokenKind) : PatternReader String := do
  let found ← nextKind
  let text ← nextText
  if found = kind then
    skip
    return text
  else fail (.expected kind found text)

def name : PatternReader String := expect .identifier

def name? : PatternReader (Option String) := do
  if (← nextKind) = .identifier then return some (← name) else return none

/-- Reads parts as long as the next token starts one.  It also stops if a part takes no token,
which the parts read here never do. -/
def many {α : Type} (starts : TokenKind → Bool) (part : PatternReader α) :
    PatternReader (List α) := fun tokens => do
  let (kind, _) ← nextKind tokens
  if starts kind then
    let (first, rest) ← part tokens
    if _h : rest.length < tokens.length then
      let (others, rest) ← many starts part rest
      return (first :: others, rest)
    else return ([first], rest)
  else return ([], tokens)
termination_by tokens => tokens.length

/-! ### Properties -/

/-- A number, a string or a keyword as a value. -/
def literal : PatternReader Value := do
  let text ← nextText
  let value : Value ←
    match ← nextKind with
    | .string => pure (.string text)
    | .integer =>
      match Integer.int64? text.toList with
      | some n => pure (.int n)
      | none =>
        if text.toList.head? = some '-' then fail (.integerTooSmall text)
        else fail (.integerTooLarge text)
    | .float => pure (.float ((Binary64.ofText? text.toList).getD .nan))
    | .true => pure (.bool true)
    | .false => pure (.bool false)
    | .null => pure .null
    | _ => fail (.notALiteral text)
  skip
  return value

/-- A property and the value it has to be equal to. -/
def property : PatternReader PropertyConstraint := do
  let key ← name
  let _ ← expect .colon
  return .equals key (← literal)

/-- Properties in braces, if the next token opens them. -/
def properties : PatternReader (List PropertyConstraint) := do
  if ← eat .openBrace then
    if ← eat .closeBrace then return []
    else
      let first ← property
      let others ← many (· = .comma) (do let _ ← expect .comma; property)
      let _ ← expect .closeBrace
      return first :: others
  else return []

/-! ### Nodes and hops -/

def node : PatternReader NodePattern := do
  let _ ← expect .openParen
  let given ← name?
  let labels ← many (· = .colon) (do let _ ← expect .colon; name)
  let constraints ← properties
  let _ ← expect .closeParen
  return ⟨given, labels, constraints⟩

/-- A count, if the next token is an integer. -/
def count? : PatternReader (Option Nat) := do
  if (← nextKind) = .integer then
    let text ← nextText
    match Integer.natural? text.toList with
    | some n =>
      skip
      return some n
    | none => fail (.badHopCount text)
  else return none

/-- The bounds on a number of hops after the star: both open, one number for both, or a range. -/
def hopBounds : PatternReader (Nat × Option Nat) := do
  let low ← count?
  if ← eat .dotDot then
    let high ← count?
    match low, high with
    | some low, some high =>
      if high < low then fail (.emptyHopRange low high) else return (low, some high)
    | _, _ => return (low.getD 1, high)
  else return (low.getD 1, low)

/-- The labels of a hop after their colon; a colon before each of them is accepted as well. -/
def types : PatternReader (List String) := do
  let first ← name
  let others ← many (· = .pipe) (do
    let _ ← expect .pipe
    let _ ← eat .colon
    name)
  return first :: others

/-- What stands in the brackets of a hop, if the next token opens them. -/
def brackets : PatternReader RelationshipPattern := do
  if ← eat .openBracket then
    let given ← name?
    let labels ← if ← eat .colon then types else pure []
    let (low, high) ←
      if ← eat .star then do
        let (low, high) ← hopBounds
        pure (some low, high)
      else pure (none, none)
    let constraints ← properties
    let _ ← expect .closeBracket
    return ⟨given, labels, .outgoing, constraints, low, high⟩
  else return {}

/-- The direction of a hop, read at its end. -/
def direction (incoming : Bool) : PatternReader Direction := do
  if incoming then
    if (← nextKind) = .arrow then fail .bothDirections
    else
      let _ ← expect .dash
      return .incoming
  else if ← eat .arrow then return .outgoing
  else
    let _ ← expect .dash
    return .both

def relationship : PatternReader RelationshipPattern := do
  let incoming ← eat .leftArrow
  if !incoming then let _ ← expect .dash
  let inner ← brackets
  return { inner with direction := ← direction incoming }

/-! ### Paths -/

def segment : PatternReader (RelationshipPattern × NodePattern) := do
  let hop ← relationship
  return (hop, ← node)

/-- A path and nothing behind it. -/
def path : PatternReader PathPattern := do
  let start ← node
  let segments ← many (fun kind => kind = .dash || kind = .leftArrow) segment
  if (← nextKind) = .endOfText then return ⟨start, segments⟩
  else fail (.trailing (← nextText))

end PatternReader

namespace PathPattern

/-- The pattern that a list of tokens denotes. -/
def ofTokens (tokens : List Token) : Except Error PathPattern := do
  let (pattern, _) ← PatternReader.path tokens
  return pattern

/-- The pattern that a text denotes. -/
def ofText (text : String) : Except Error PathPattern := do
  ofTokens (← Token.ofText text)

end PathPattern

end PropertyGraph
