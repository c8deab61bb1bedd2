/-!
# Engines of regular expressions

What a regular expression is and what it matches is left open: a `RegexEngine` answers both, and
everything that compares texts with expressions works with any engine.  `Regex` is the engine that
programs get.
-/

namespace PropertyGraph

/-- An engine whose expressions have the type `ρ`. -/
class RegexEngine (ρ : outParam Type) where
  /-- The expression that a text writes, if it writes one. -/
  compile? : String → Option ρ
  /-- The expression matches somewhere in the text. -/
  isMatch : ρ → String → Bool

end PropertyGraph
