import PropertyGraph.Numeric.Integer
import PropertyGraph.Pattern.Basic
import PropertyGraph.Pattern.Token

/-!
# The grammar of patterns

`PatternGrammar` states the grammar of pattern text as derivations, without reference to a reader:
for each part of a pattern, the tokens that it may consist of and what they denote.

    path  := node (rel node)*
    node  := '(' ident? (':' ident)* props? ')'
    rel   := ('-' | '<-') ('[' ident? (':' ident ('|' ':'? ident)*)? hops? props? ']')? ('->' | '-')
    hops  := '*' int? ('..' int?)?
    props := '{' (ident ':' literal (',' ident ':' literal)*)? '}'

A part that may be left out has a derivation from no tokens.  Behind such a part stands the token
that starts it or whatever follows (`Many.firstKind_append` and the like), by which a reader can tell
whether the part is there.
-/

namespace PropertyGraph

/-! ### Derivations -/

namespace PatternGrammar

/-- Any number of parts one behind the other. -/
inductive Many {α : Type} (part : List Token → α → Prop) : List Token → List α → Prop where
  | nil : Many part [] []
  | cons {ts rest : List Token} {a : α} {as : List α} :
    part ts a → Many part rest as → Many part (ts ++ rest) (a :: as)

/-- `ident?` -/
inductive OptionalName : List Token → Option String → Prop where
  | absent : OptionalName [] none
  | present {t : Token} : t.kind = .identifier → OptionalName [t] (some t.text)

/-- `':' ident` -/
inductive Label : List Token → String → Prop where
  | mk {colon name : Token} :
    colon.kind = .colon → name.kind = .identifier → Label [colon, name] name.text

/-- `'|' ':'? ident` -/
inductive MoreType : List Token → String → Prop where
  | plain {pipe name : Token} :
    pipe.kind = .pipe → name.kind = .identifier → MoreType [pipe, name] name.text
  | colon {pipe colon name : Token} :
    pipe.kind = .pipe → colon.kind = .colon → name.kind = .identifier →
      MoreType [pipe, colon, name] name.text

/-- `ident ('|' ':'? ident)*` -/
inductive TypeNames : List Token → List String → Prop where
  | mk {name : Token} {more : List Token} {names : List String} :
    name.kind = .identifier → Many MoreType more names →
      TypeNames (name :: more) (name.text :: names)

/-- `(':' ident ('|' ':'? ident)*)?` -/
inductive Types : List Token → List String → Prop where
  | absent : Types [] []
  | present {colon : Token} {ts : List Token} {names : List String} :
    colon.kind = .colon → TypeNames ts names → Types (colon :: ts) names

/-- `literal`, where a number has to be one that can be held -/
inductive Literal : List Token → Value → Prop where
  | string {t : Token} : t.kind = .string → Literal [t] (.string t.text)
  | integer {t : Token} {n : Int64} :
    t.kind = .integer → Integer.int64? t.text.toList = some n → Literal [t] (.int n)
  | float {t : Token} {x : Binary64} :
    t.kind = .float → Binary64.ofText? t.text.toList = some x → Literal [t] (.float x)
  | true {t : Token} : t.kind = .true → Literal [t] (.bool Bool.true)
  | false {t : Token} : t.kind = .false → Literal [t] (.bool Bool.false)
  | null {t : Token} : t.kind = .null → Literal [t] .null

/-- `ident ':' literal` -/
inductive Property : List Token → PropertyConstraint → Prop where
  | mk {key colon : Token} {ts : List Token} {v : Value} :
    key.kind = .identifier → colon.kind = .colon → Literal ts v →
      Property (key :: colon :: ts) (.equals key.text v)

/-- `',' ident ':' literal` -/
inductive MoreProperty : List Token → PropertyConstraint → Prop where
  | mk {comma : Token} {ts : List Token} {c : PropertyConstraint} :
    comma.kind = .comma → Property ts c → MoreProperty (comma :: ts) c

/-- `('{' (ident ':' literal (',' ident ':' literal)*)? '}')?` -/
inductive Properties : List Token → List PropertyConstraint → Prop where
  | absent : Properties [] []
  | empty {opening closing : Token} :
    opening.kind = .openBrace → closing.kind = .closeBrace → Properties [opening, closing] []
  | listed {opening closing : Token} {ts more : List Token} {c : PropertyConstraint}
      {cs : List PropertyConstraint} :
    opening.kind = .openBrace → Property ts c → Many MoreProperty more cs →
      closing.kind = .closeBrace → Properties (opening :: ts ++ more ++ [closing]) (c :: cs)

/-- `'(' ident? (':' ident)* props? ')'` -/
inductive Node : List Token → NodePattern → Prop where
  | mk {opening closing : Token} {ns ls ps : List Token} {given : Option String}
      {labels : List String} {constraints : List PropertyConstraint} :
    opening.kind = .openParen → OptionalName ns given → Many Label ls labels →
      Properties ps constraints → closing.kind = .closeParen →
      Node (opening :: ns ++ ls ++ ps ++ [closing]) ⟨given, labels, constraints⟩

/-- `int?`, where a number has to be a count -/
inductive OptionalCount : List Token → Option Nat → Prop where
  | absent : OptionalCount [] none
  | present {t : Token} {n : Nat} :
    t.kind = .integer → Integer.natural? t.text.toList = some n → OptionalCount [t] (some n)

/-- `int? ('..' int?)?`, where two bounds have to be in order: the least and the largest number of
hops. -/
inductive Bounds : List Token → Nat × Option Nat → Prop where
  | unbounded : Bounds [] (1, none)
  | exactly {t : Token} {n : Nat} :
    t.kind = .integer → Integer.natural? t.text.toList = some n → Bounds [t] (n, some n)
  | range {dots : Token} {ls hs : List Token} {low high : Option Nat} :
    OptionalCount ls low → dots.kind = .dotDot → OptionalCount hs high →
      (∀ m n, low = some m → high = some n → m ≤ n) →
      Bounds (ls ++ dots :: hs) (low.getD 1, high)

/-- `('*' int? ('..' int?)?)?` -/
inductive Hops : List Token → Option Nat × Option Nat → Prop where
  | absent : Hops [] (none, none)
  | present {star : Token} {ts : List Token} {low : Nat} {high : Option Nat} :
    star.kind = .star → Bounds ts (low, high) → Hops (star :: ts) (some low, high)

/-- `('[' ident? (':' ident ('|' ':'? ident)*)? hops? props? ']')?` -/
inductive Brackets : List Token → RelationshipPattern → Prop where
  | absent : Brackets [] {}
  | present {opening closing : Token} {ns ts hs ps : List Token} {given : Option String}
      {types : List String} {low high : Option Nat} {constraints : List PropertyConstraint} :
    opening.kind = .openBracket → OptionalName ns given → Types ts types → Hops hs (low, high) →
      Properties ps constraints → closing.kind = .closeBracket →
      Brackets (opening :: ns ++ ts ++ hs ++ ps ++ [closing])
        { name := given, types, constraints, minHops := low, maxHops := high }

/-- `('-' | '<-') brackets ('->' | '-')`, but for `'<-'` with `'->'` -/
inductive Relationship : List Token → RelationshipPattern → Prop where
  | outgoing {dash arrow : Token} {ts : List Token} {p : RelationshipPattern} :
    dash.kind = .dash → Brackets ts p → arrow.kind = .arrow →
      Relationship (dash :: ts ++ [arrow]) { p with direction := .outgoing }
  | incoming {arrow dash : Token} {ts : List Token} {p : RelationshipPattern} :
    arrow.kind = .leftArrow → Brackets ts p → dash.kind = .dash →
      Relationship (arrow :: ts ++ [dash]) { p with direction := .incoming }
  | both {left right : Token} {ts : List Token} {p : RelationshipPattern} :
    left.kind = .dash → Brackets ts p → right.kind = .dash →
      Relationship (left :: ts ++ [right]) { p with direction := .both }

/-- `rel node` -/
inductive Segment : List Token → RelationshipPattern × NodePattern → Prop where
  | mk {rs ns : List Token} {hop : RelationshipPattern} {node : NodePattern} :
    Relationship rs hop → Node ns node → Segment (rs ++ ns) (hop, node)

/-- `node (rel node)*` -/
inductive Path : List Token → PathPattern → Prop where
  | mk {ns rest : List Token} {start : NodePattern}
      {segments : List (RelationshipPattern × NodePattern)} :
    Node ns start → Many Segment rest segments → Path (ns ++ rest) ⟨start, segments⟩

end PatternGrammar

/-! ### What follows a part -/

/-- The kind of the first of some tokens; behind the last one is the end. -/
def firstKind (ts : List Token) : TokenKind := (ts.head?.map Token.kind).getD .endOfText

@[simp] theorem firstKind_cons (t : Token) (ts : List Token) : firstKind (t :: ts) = t.kind := rfl

namespace PatternGrammar

variable {ts rest : List Token} {kind : TokenKind}

/-- Parts that all start with the same kind of token. -/
def StartsWith {α : Type} (part : List Token → α → Prop) (kinds : TokenKind → Bool) : Prop :=
  ∀ ts a, part ts a → ∃ t more, ts = t :: more ∧ kinds t.kind

/-- What many parts are followed by: another part, or what comes behind them all. -/
theorem Many.firstKind_append {α : Type} {part : List Token → α → Prop} {kinds : TokenKind → Bool}
    {as : List α} (hstart : StartsWith part kinds) (h : Many part ts as) (rest : List Token) :
    kinds (firstKind (ts ++ rest)) ∨ firstKind (ts ++ rest) = firstKind rest := by
  cases h with
  | nil => exact Or.inr rfl
  | cons hpart _ =>
    obtain ⟨t, more, rfl, ht⟩ := hstart _ _ hpart
    exact Or.inl ht

theorem Types.firstKind_append {types : List String} (h : Types ts types) (rest : List Token) :
    firstKind (ts ++ rest) = .colon ∨ firstKind (ts ++ rest) = firstKind rest := by
  cases h with
  | absent => exact Or.inr rfl
  | present hcolon => exact Or.inl hcolon

theorem Properties.firstKind_append {cs : List PropertyConstraint} (h : Properties ts cs)
    (rest : List Token) :
    firstKind (ts ++ rest) = .openBrace ∨ firstKind (ts ++ rest) = firstKind rest := by
  cases h with
  | absent => exact Or.inr rfl
  | empty hopening => exact Or.inl hopening
  | listed hopening => exact Or.inl hopening

theorem Hops.firstKind_append {bounds : Option Nat × Option Nat} (h : Hops ts bounds)
    (rest : List Token) :
    firstKind (ts ++ rest) = .star ∨ firstKind (ts ++ rest) = firstKind rest := by
  cases h with
  | absent => exact Or.inr rfl
  | present hstar => exact Or.inl hstar

end PatternGrammar

end PropertyGraph
