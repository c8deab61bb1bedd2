import PropertyGraph.Text.Category
import PropertyGraph.Text.Property

/-!
# Characters that are shown as they are

`isShown` tells the characters that stand for themselves where a text is spelled out: all but
control and format characters, blanks other than the space, fillers, characters for private use,
code points that no character has, and marks that join the character before them.
-/

namespace PropertyGraph.Text

/-- A character that extends the one before it: the property Grapheme_Extend. -/
def isExtending (c : Char) : Bool :=
  category c = .mn || category c = .me || otherExtending.contains c.toNat

def isShown (c : Char) : Bool :=
  c = ' ' ||
    !((category c).isSeparator || (category c).isOther || isExtending c ||
      ignorables.contains c.toNat)

end PropertyGraph.Text
