/-!
# What can be wrong with the text of a pattern

`TokenKind` lists the tokens of pattern text and `SyntaxFault` what a reader of them may find.
-/

namespace PropertyGraph

inductive TokenKind where
  | null
  | true
  | false
  | integer
  | float
  | string
  | identifier
  | openParen
  | closeParen
  | openBracket
  | closeBracket
  | openBrace
  | closeBrace
  | comma
  | colon
  | pipe
  | star
  | arrow
  | leftArrow
  | dash
  | dotDot
  | endOfText
deriving DecidableEq

/-- The name of a kind of token in messages. -/
def TokenKind.name : TokenKind → String
  | .null => "Null"
  | .true => "True"
  | .false => "False"
  | .integer => "Integer"
  | .float => "Float"
  | .string => "StringLiteral"
  | .identifier => "Identifier"
  | .openParen => "LParen"
  | .closeParen => "RParen"
  | .openBracket => "LBracket"
  | .closeBracket => "RBracket"
  | .openBrace => "LBrace"
  | .closeBrace => "RBrace"
  | .comma => "Comma"
  | .colon => "Colon"
  | .pipe => "Pipe"
  | .star => "Star"
  | .arrow => "Arrow"
  | .leftArrow => "LeftArrow"
  | .dash => "Dash"
  | .dotDot => "DotDot"
  | .endOfText => "Eof"

inductive SyntaxFault where
  | unterminatedString
  | unterminatedName
  | unexpectedCharacter (c : Char)
  | expected (kind found : TokenKind) (text : String)
  | trailing (text : String)
  | bothDirections
  | emptyHopRange (min max : Nat)
  | badHopCount (text : String)
  | integerTooLarge (text : String)
  | integerTooSmall (text : String)
  | notALiteral (text : String)

def SyntaxFault.message : SyntaxFault → String
  | .unterminatedString => "unterminated string literal"
  | .unterminatedName => "unterminated backquoted identifier"
  | .unexpectedCharacter c => "unexpected character '" ++ String.singleton c ++ "'"
  | .expected kind found text =>
    "expected " ++ kind.name ++ ", got " ++ found.name ++ " '" ++ text ++ "'"
  | .trailing text => "unexpected '" ++ text ++ "' after pattern"
  | .bothDirections => "relationship cannot point both ways"
  | .emptyHopRange min max => "empty hop range *" ++ toString min ++ ".." ++ toString max
  | .badHopCount text => "hop count must be a non-negative integer, got " ++ text
  | .integerTooLarge text =>
    "invalid integer " ++ text ++ ": number too large to fit in target type"
  | .integerTooSmall text =>
    "invalid integer " ++ text ++ ": number too small to fit in target type"
  | .notALiteral text => "expected a literal, got '" ++ text ++ "'"

end PropertyGraph
