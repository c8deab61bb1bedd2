import PropertyGraph.Error
import PropertyGraph.Text.Blank
import PropertyGraph.Text.Folding
import PropertyGraph.Text.Letters

/-!
# Tokens of pattern text

`Token.ofText` divides the text of a pattern into tokens and ends them with one that marks the end
of the text.  Positions count the bytes of the text in UTF-8.

A `Lexeme` is what stands at the start of some text: the characters it takes, and what they mean.
Only quoted strings and quoted names mean something else than what is written.
-/

namespace PropertyGraph

structure Token where
  kind : TokenKind
  /-- The position of the first byte. -/
  start : Nat
  /-- The position behind the last byte. -/
  stop : Nat
  /-- What the token stands for: the contents of a quoted string or name, else the token itself. -/
  text : String
deriving DecidableEq

/-- The number of bytes of a text in UTF-8. -/
def byteLength (text : List Char) : Nat := text.foldl (fun n c => n + c.utf8Size) 0

/-- The token at the start of a text that begins with a given character. -/
structure Lexeme where
  kind : TokenKind
  /-- The characters of the token after its first one. -/
  more : List Char
  text : String

namespace Lexeme

/-! ### Quoted strings and names -/

/-- What an escape in a string stands for: a line feed, a tab, a backslash or the quote; any other
character keeps its backslash. -/
def escaped (quote c : Char) : List Char :=
  if c = 'n' then ['\n']
  else if c = 't' then ['\t']
  else if c = '\\' ∨ c = quote then [c]
  else ['\\', c]

/-- Reads up to a closing quote: the characters read, with the quote, and what they stand for. -/
def quotedBody (quote : Char) : List Char → Option (List Char × List Char)
  | [] => none
  | '\\' :: [] => none
  | '\\' :: c :: rest =>
    (quotedBody quote rest).map fun (taken, meant) =>
      ('\\' :: c :: taken, escaped quote c ++ meant)
  | c :: rest =>
    if c = quote then some ([c], [])
    else (quotedBody quote rest).map fun (taken, meant) => (c :: taken, c :: meant)

/-- A string after its opening quote. -/
def quoted (quote : Char) (rest : List Char) : Except SyntaxFault Lexeme :=
  match quotedBody quote rest with
  | some (taken, meant) => .ok ⟨.string, taken, String.ofList meant⟩
  | none => .error .unterminatedString

/-- A name after its opening backquote; nothing is escaped in it. -/
def quotedName (rest : List Char) : Except SyntaxFault Lexeme :=
  let meant := rest.takeWhile (· ≠ '\x60')
  if meant.length < rest.length then
    .ok ⟨.identifier, meant ++ ['\x60'], String.ofList meant⟩
  else .error .unterminatedName

/-! ### Numbers and words -/

/-- A point and digits, if both stand at the start of the text. -/
def fraction : List Char → List Char
  | '.' :: c :: rest => if c.isDigit then '.' :: (c :: rest).takeWhile Char.isDigit else []
  | _ => []

/-- A number after its sign or first digit: digits, and a fraction that makes it no integer. -/
def number (first : Char) (rest : List Char) : Lexeme :=
  let digits := rest.takeWhile Char.isDigit
  let fraction := fraction (rest.dropWhile Char.isDigit)
  ⟨if fraction.isEmpty then .integer else .float, digits ++ fraction,
    String.ofList (first :: digits ++ fraction)⟩

/-- A character that a name may start with. -/
def startsName (c : Char) : Bool := Text.isAlphabetic c || c = '_'

/-- A character that a name may go on with. -/
def continuesName (c : Char) : Bool := Text.isAlphanumeric c || c = '_'

/-- The keywords in any case, else a name. -/
def wordKind (word : List Char) : TokenKind :=
  let same (keyword : String) : Bool := word.map Text.fold = keyword.toList.map Text.fold
  if same "null" then .null
  else if same "true" then .true
  else if same "false" then .false
  else .identifier

/-- A keyword or a name after its first character. -/
def word (first : Char) (rest : List Char) : Lexeme :=
  let more := rest.takeWhile continuesName
  ⟨wordKind (first :: more), more, String.ofList (first :: more)⟩

/-! ### Signs -/

/-- A token that means what is written. -/
def sign (kind : TokenKind) (first : Char) (more : List Char) : Lexeme :=
  ⟨kind, more, String.ofList (first :: more)⟩

/-- The sign of one character, if it is one. -/
def signKind? (c : Char) : Option TokenKind :=
  if c = '(' then some .openParen
  else if c = ')' then some .closeParen
  else if c = '[' then some .openBracket
  else if c = ']' then some .closeBracket
  else if c = '\x7b' then some .openBrace
  else if c = '\x7d' then some .closeBrace
  else if c = ',' then some .comma
  else if c = ':' then some .colon
  else if c = '|' then some .pipe
  else if c = '*' then some .star
  else none

/-- What a hyphen starts: a negative number before a digit, an arrow before its head, or a dash. -/
def hyphen : List Char → Lexeme
  | '>' :: _ => sign .arrow '-' ['>']
  | c :: rest => if c.isDigit then number '-' (c :: rest) else sign .dash '-' []
  | [] => sign .dash '-' []

/-! ### Lexemes -/

/-- The token that starts with a character, which is not blank, and goes on with the rest of the
text. -/
def read (c : Char) (rest : List Char) : Except SyntaxFault Lexeme :=
  if c = '\'' ∨ c = '\x22' then quoted c rest
  else if c = '\x60' then quotedName rest
  else if c = '-' then .ok (hyphen rest)
  else if c.isDigit then .ok (number c rest)
  else if startsName c then .ok (word c rest)
  else if c = '.' ∧ rest.head? = some '.' then .ok (sign .dotDot c ['.'])
  else if c = '<' ∧ rest.head? = some '-' then .ok (sign .leftArrow c ['-'])
  else
    match signKind? c with
    | some kind => .ok (sign kind c [])
    | none => .error (.unexpectedCharacter c)

end Lexeme

namespace Token

/-- The tokens of a text that starts at a position. -/
def ofChars (position : Nat) : List Char → Except Error (List Token)
  | [] => .ok [⟨.endOfText, position, position, ""⟩]
  | c :: rest =>
    if Text.isBlank c then ofChars (position + c.utf8Size) rest
    else
      match Lexeme.read c rest with
      | .error fault => .error (.patternSyntax position fault)
      | .ok lexeme =>
        let stop := position + byteLength (c :: lexeme.more)
        match ofChars stop (rest.drop lexeme.more.length) with
        | .error e => .error e
        | .ok others => .ok (⟨lexeme.kind, position, stop, lexeme.text⟩ :: others)
termination_by text => text.length
decreasing_by all_goals simp only [List.length_drop, List.length_cons]; omega

/-- The tokens of a text and the mark of its end. -/
def ofText (text : String) : Except Error (List Token) := ofChars 0 text.toList

end Token

end PropertyGraph
