import PropertyGraph.Regex.Basic
import PropertyGraph.Text.Property
import PropertyGraph.Text.Script

/-!
# Properties by name

`Regex.propertySet?` finds the characters with a property that an expression names: a general
category, a script, or a property that a character has or has not.  Of categories and scripts the
kind may be named too, with a sign before the name, as in `sc=Greek`.

Case, spaces, hyphens and underscores do not count in a name, nor does `is` at its start.
-/

namespace PropertyGraph.Regex

open Text

/-! ### General categories -/

def categories (ks : List GeneralCategory) : CharSet :=
  ks.foldr (fun k s => .union (.category k) s) .empty

/-- The general categories and their groups, by name. -/
def categorySets : List (List String × CharSet) := [
  (["any"], .all),
  (["ascii"], .range (Char.ofNat 0) (Char.ofNat 127)),
  (["assigned"], .compl (.category .cn)),
  (["l", "letter"], .letter),
  (["lc", "casedletter"], categories [.lu, .ll, .lt]),
  (["lu", "uppercaseletter"], .category .lu),
  (["ll", "lowercaseletter"], .category .ll),
  (["lt", "titlecaseletter"], .category .lt),
  (["lm", "modifierletter"], .category .lm),
  (["lo", "otherletter"], .category .lo),
  (["m", "mark", "combiningmark"], categories [.mn, .mc, .me]),
  (["mn", "nonspacingmark"], .category .mn),
  (["mc", "spacingmark"], .category .mc),
  (["me", "enclosingmark"], .category .me),
  (["n", "number"], .numeral),
  (["nd", "decimalnumber", "digit"], .category .nd),
  (["nl", "letternumber"], .category .nl),
  (["no", "othernumber"], .category .no),
  (["p", "punctuation", "punct"], categories [.pc, .pd, .ps, .pe, .pi, .pf, .po]),
  (["pc", "connectorpunctuation"], .category .pc),
  (["pd", "dashpunctuation"], .category .pd),
  (["ps", "openpunctuation"], .category .ps),
  (["pe", "closepunctuation"], .category .pe),
  (["pi", "initialpunctuation"], .category .pi),
  (["pf", "finalpunctuation"], .category .pf),
  (["po", "otherpunctuation"], .category .po),
  (["s", "symbol"], categories [.sm, .sc, .sk, .so]),
  (["sm", "mathsymbol"], .category .sm),
  (["sc", "currencysymbol"], .category .sc),
  (["sk", "modifiersymbol"], .category .sk),
  (["so", "othersymbol"], .category .so),
  (["z", "separator"], categories [.zs, .zl, .zp]),
  (["zs", "spaceseparator"], .category .zs),
  (["zl", "lineseparator"], .category .zl),
  (["zp", "paragraphseparator"], .category .zp),
  (["c", "other"], categories [.cc, .cf, .co, .cn]),
  (["cc", "control", "cntrl"], .category .cc),
  (["cf", "format"], .category .cf),
  (["co", "privateuse"], .category .co),
  (["cn", "unassigned"], .category .cn)]

/-! ### Properties that a character has or has not -/

def lowercase : CharSet := .union (.category .ll) (.table otherLowercase)

def uppercase : CharSet := .union (.category .lu) (.table otherUppercase)

/-- The characters with another lowercase form. -/
def lowered : CharSet := .difference (.union uppercase (.category .lt)) (.table neverLowered)

/-- The characters with another uppercase form. -/
def raised : CharSet :=
  .union (.difference (.category .ll) (.table neverRaised)) (.table otherRaised)

/-- The characters with another titlecase form. -/
def titled : CharSet := .union (.difference raised (.table neverTitled)) (.table otherTitled)

/-- The characters that full case folding changes. -/
def folded : CharSet := .union (.difference lowered (.table neverFolded)) (.table otherFolded)

/-- The characters that extend the one before them. -/
def extending : CharSet := .union (categories [.mn, .me]) (.table otherExtending)

/-- The characters that may start a name. -/
def nameStart : CharSet :=
  -- A letter that belongs to the syntax of patterns starts none.
  .difference (.union .letter (.union (.category .nl) (.table otherNameStart))) (.single '\u2e2f')

/-- The characters that may stand in a name. -/
def namePart : CharSet :=
  .union nameStart (.union (categories [.mn, .mc, .nd, .pc]) (.table otherNamePart))

/-- The other properties of the standard, by name. -/
def binarySets : List (List String × CharSet) := [
  (["asciihexdigit", "ahex"],
    .union (.range '0' '9') (.union (.range 'A' 'F') (.range 'a' 'f'))),
  (["alphabetic", "alpha"], .alphabetic),
  (["bidicontrol", "bidic"], .table bidiControls),
  (["bidimirrored", "bidim"], .table mirrored),
  (["caseignorable", "ci"],
    .union (categories [.mn, .me, .cf, .lm, .sk]) (.table otherCaseIgnorable)),
  (["cased"], .union lowercase (.union uppercase (.category .lt))),
  (["changeswhencasefolded", "cwcf"], folded),
  (["changeswhencasemapped", "cwcm"], .union lowered (.union raised titled)),
  (["changeswhenlowercased", "cwl"], lowered),
  (["changeswhentitlecased", "cwt"], titled),
  (["changeswhenuppercased", "cwu"], raised),
  (["dash"], .union (.category .pd) (.table otherDash)),
  (["defaultignorablecodepoint", "di"], .table ignorables),
  (["deprecated", "dep"], .table deprecated),
  (["diacritic", "dia"], .table diacritics),
  (["emoji"], .table emoji),
  (["emojicomponent", "ecomp"], .table emojiParts),
  (["emojimodifier", "emod"], .table emojiModifiers),
  (["emojimodifierbase", "ebase"], .table emojiBases),
  (["emojipresentation", "epres"], .table emojiShown),
  (["extendedpictographic", "extpict"], .table pictographs),
  (["extender", "ext"], .table extenders),
  (["graphemebase", "grbase"],
    .compl (.union extending (categories [.cc, .cf, .co, .cn, .zl, .zp]))),
  (["graphemeextend", "grext"], extending),
  (["hexdigit", "hex"], .table hexDigits),
  (["idsbinaryoperator", "idsb"], .table ideographicDescriptions),
  (["idstrinaryoperator", "idst"], .table ternaryDescriptions),
  (["idcontinue", "idc"], namePart),
  (["idstart", "ids"], nameStart),
  (["ideographic", "ideo"], .table ideographs),
  (["joincontrol", "joinc"], .table joiners),
  (["logicalorderexception", "loe"], .table visualOrder),
  (["lowercase", "lower"], lowercase),
  (["math"], .union (.category .sm) (.table otherMath)),
  (["noncharactercodepoint", "nchar"], .table noncharacters),
  (["patternsyntax", "patsyn"], .table patternSyntax),
  (["patternwhitespace", "patws"], .table patternBlanks),
  (["quotationmark", "qmark"], .table quotationMarks),
  (["radical"], .table radicals),
  (["regionalindicator", "ri"], .table regionalIndicators),
  (["sentenceterminal", "sterm"], .table sentenceEnds),
  (["softdotted", "sd"], .table softDotted),
  (["terminalpunctuation", "term"], .table terminals),
  (["unifiedideograph", "uideo"], .table unifiedIdeographs),
  (["uppercase", "upper"], uppercase),
  (["variationselector", "vs"], .table variationSelectors),
  (["whitespace", "wspace", "space"], .blank),
  (["xidcontinue", "xidc"], .difference namePart (.table openNamePart)),
  (["xidstart", "xids"], .difference nameStart (.table openNameStart))]

/-! ### Names -/

/-- The set that has a name in a table. -/
def namedSet? (sets : List (List String × CharSet)) (name : String) : Option CharSet :=
  (sets.find? fun s => s.1.contains name).map (·.2)

/-- The characters of a script. -/
def scriptSet? (name : String) : Option CharSet :=
  (script? name).map fun (_, ranges) => .table ranges

/-- The characters that a script uses. -/
def usedBySet? (name : String) : Option CharSet :=
  (script? name).map fun (short, ranges) =>
    .union (.difference (.table ranges) (.table (sharedRanges short false)))
      (.table (sharedRanges short true))

/-- The name of a property or a value without what does not count in it. -/
def plainName (name : List Char) : String :=
  let lower := name.map Char.toLower
  let startsWithIs := ['i', 's'].isPrefixOf lower
  let plain := (if startsWithIs then lower.drop 2 else lower).filter fun c =>
    c.toNat < 128 && c != ' ' && c != '-' && c != '_'
  -- This is the short name of a property that no set is known for.
  if startsWithIs && plain == ['c'] then "isc" else String.ofList plain

/-- What stands before and behind the first place of a sign in a text. -/
def cut? (sign : List Char) : List Char → Option (List Char × List Char)
  | [] => none
  | c :: rest =>
    if sign.isPrefixOf (c :: rest) then some ([], (c :: rest).drop sign.length)
    else (cut? sign rest).map fun (before, behind) => (c :: before, behind)

/-- The set of a value of a property. -/
def valueSet? (property value : List Char) : Option CharSet :=
  let property := plainName property
  let value := plainName value
  if ["gc", "generalcategory"].contains property then namedSet? categorySets value
  else if ["sc", "script"].contains property then scriptSet? value
  else if ["scx", "scriptextensions"].contains property then usedBySet? value
  else none

/-- The set of a property by its name, or by its name and a value.  All signs between the two mean
the same. -/
def propertySet? (text : List Char) : Option CharSet :=
  match cut? ['!', '='] text <|> cut? [':'] text <|> cut? ['='] text with
  | some (property, value) => valueSet? property value
  | none =>
    let name := plainName text
    namedSet? categorySets name <|> scriptSet? name <|> namedSet? binarySets name

end PropertyGraph.Regex
