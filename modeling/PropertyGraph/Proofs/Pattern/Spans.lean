import Mathlib.Data.List.Chain
import Mathlib.Data.List.Infix
import Mathlib.Data.List.TakeWhile
import PropertyGraph.Proofs.Pattern.Tokens

/-!
# Where tokens lie in a text

`Token.ofText_laidOut`: the tokens of a text lie in it one after the other, each on whole
characters, with nothing but blanks before, between and behind them, and a token that is not quoted
means what is written there.  A text that cannot be divided is refused at one of its characters.

A `Slice` is a part of a text between two positions.  Lexemes are read at the start of what is left
of the text (`Lexeme.read_spells`), and a token that is put in front of tokens that lie in a text
lies in front of them there (`Token.LaidOut.cons`).
-/

namespace PropertyGraph

/-! ### Positions -/

theorem foldl_utf8Size (text : List Char) (n : Nat) :
    text.foldl (fun n c => n + c.utf8Size) n = n + byteLength text := by
  unfold byteLength
  induction text generalizing n with
  | nil => rfl
  | cons c rest ih =>
    rw [List.foldl_cons, List.foldl_cons, ih, ih (0 + _), Nat.zero_add, Nat.add_assoc]

@[simp]
theorem byteLength_nil : byteLength [] = 0 := rfl

@[simp]
theorem byteLength_cons (c : Char) (rest : List Char) :
    byteLength (c :: rest) = c.utf8Size + byteLength rest := by
  rw [byteLength, List.foldl_cons, foldl_utf8Size, Nat.zero_add]

@[simp]
theorem byteLength_append (xs ys : List Char) :
    byteLength (xs ++ ys) = byteLength xs + byteLength ys := by
  rw [byteLength, List.foldl_append, foldl_utf8Size]
  rfl

/-- The bytes are those of the text in UTF-8. -/
theorem byteLength_toList (text : String) : byteLength text.toList = text.utf8ByteSize := by
  have hlist : ∀ cs : List Char, byteLength cs = (String.ofList cs).utf8ByteSize := by
    intro cs
    induction cs with
    | nil => rfl
    | cons c rest ih =>
      rw [byteLength_cons, ih, String.ofList_cons, String.utf8ByteSize_append,
        String.utf8ByteSize_singleton]
  rw [hlist, String.ofList_toList]

/-! ### Parts of a text -/

/-- A part of a text starts and stops at positions, which are counted in bytes. -/
def Slice (text : String) (start stop : Nat) (part : List Char) : Prop :=
  ∃ before after, text.toList = before ++ part ++ after ∧ byteLength before = start ∧
    byteLength (before ++ part) = stop

/-- Nothing but blanks stands between two positions of a text. -/
def BlankBetween (text : String) (start stop : Nat) : Prop :=
  ∃ blanks, Slice text start stop blanks ∧ ∀ c ∈ blanks, Text.isBlank c

variable {text : String} {start stop next : Nat} {part : List Char}

theorem Slice.start_add (h : Slice text start stop part) : start + byteLength part = stop := by
  obtain ⟨before, after, -, rfl, rfl⟩ := h
  exact (byteLength_append ..).symm

theorem BlankBetween.refl {before after : List Char} (htext : text.toList = before ++ after)
    (hstart : byteLength before = start) : BlankBetween text start start := by
  refine ⟨[], ⟨before, after, ?_, hstart, ?_⟩, fun c hc => (List.not_mem_nil hc).elim⟩
  · rw [htext, List.append_nil]
  · rw [List.append_nil, hstart]

theorem Slice.blankBetween_start (h : Slice text start stop part) :
    BlankBetween text start start := by
  obtain ⟨before, after, htext, hstart, -⟩ := h
  exact .refl (htext.trans (List.append_assoc ..)) hstart

/-- Texts that start alike up to a position go on alike. -/
theorem append_inj_of_byteLength {xs xs' ys ys' : List Char} (h : xs ++ ys = xs' ++ ys')
    (hlength : byteLength xs = byteLength xs') : xs = xs' ∧ ys = ys' := by
  induction xs generalizing xs' with
  | nil =>
    cases xs' with
    | nil => exact ⟨rfl, h⟩
    | cons c rest =>
      have hpos := c.utf8Size_pos
      rw [byteLength_nil, byteLength_cons] at hlength
      omega
  | cons c rest ih =>
    cases xs' with
    | nil =>
      have hpos := c.utf8Size_pos
      rw [byteLength_nil, byteLength_cons] at hlength
      omega
    | cons c' rest' =>
      obtain ⟨rfl, hrest⟩ := List.cons.inj h
      rw [byteLength_cons, byteLength_cons, Nat.add_left_cancel_iff] at hlength
      obtain ⟨rfl, hys⟩ := ih hrest hlength
      exact ⟨rfl, hys⟩

/-- A blank in front of blanks. -/
theorem BlankBetween.cons {c : Char} (hc : Text.isBlank c) (hslice : Slice text start next [c])
    (h : BlankBetween text next stop) : BlankBetween text start stop := by
  obtain ⟨blanks, ⟨before, after, htext, hbefore, hstop⟩, hblanks⟩ := h
  obtain ⟨before', after', htext', hbefore', hnext⟩ := hslice
  obtain ⟨rfl, -⟩ := append_inj_of_byteLength
    ((List.append_assoc ..).symm.trans (htext.symm.trans htext')) (hbefore.trans hnext.symm)
  refine ⟨c :: blanks, ⟨before', after, ?_, hbefore', ?_⟩, List.forall_mem_cons.mpr ⟨hc, hblanks⟩⟩
  · simpa using htext
  · simpa using hstop

/-! ### What lexemes take -/

/-- How a token of a kind with some meaning is written. -/
structure Spells (kind : TokenKind) (meaning : String) (part : List Char) : Prop where
  nonempty : kind ≠ .endOfText → part ≠ []
  /-- A token that is not quoted means what is written. -/
  plain : kind ≠ .string → part.head? ≠ some '\x60' → part = meaning.toList
  /-- A quoted name means what is written between the quotes. -/
  name : part.head? = some '\x60' → kind = .identifier ∧
    part = '\x60' :: meaning.toList ++ ['\x60']

namespace Lexeme

variable {c : Char} {rest : List Char} {l : Lexeme}

/-- A lexeme takes what stands behind its first character and means what it takes. -/
structure Plain (c : Char) (rest : List Char) (l : Lexeme) : Prop where
  more : l.more <+: rest
  text : l.text = String.ofList (c :: l.more)

theorem Plain.spells (h : Plain c rest l) (hc : c ≠ '\x60') :
    Spells l.kind l.text (c :: l.more) where
  nonempty _ := List.cons_ne_nil c l.more
  plain _ _ := by rw [h.text, String.toList_ofList]
  name hquote := (hc (Option.some.inj hquote)).elim

theorem fraction_isPrefix (text : List Char) : fraction text <+: text := by
  unfold fraction
  split
  · next c rest =>
    split_ifs
    · exact (List.prefix_cons_inj '.').mpr (List.takeWhile_prefix _)
    · exact List.nil_prefix
  · exact List.nil_prefix

theorem number_plain (c : Char) (rest : List Char) : Plain c rest (number c rest) where
  more := by
    have hfraction := (List.prefix_append_right_inj (rest.takeWhile Char.isDigit)).mpr
      (fraction_isPrefix (rest.dropWhile Char.isDigit))
    rwa [List.takeWhile_append_dropWhile] at hfraction
  text := rfl

theorem word_plain (c : Char) (rest : List Char) : Plain c rest (word c rest) where
  more := List.takeWhile_prefix _
  text := rfl

theorem sign_plain (kind : TokenKind) (c : Char) {more : List Char} (h : more <+: rest) :
    Plain c rest (sign kind c more) where
  more := h
  text := rfl

theorem hyphen_plain (rest : List Char) : Plain '-' rest (hyphen rest) := by
  unfold hyphen
  split
  · exact sign_plain .arrow '-' (List.prefix_append ['>'] _)
  · split_ifs
    · exact number_plain '-' _
    · exact sign_plain .dash '-' List.nil_prefix
  · exact sign_plain .dash '-' List.nil_prefix

theorem quotedBody_isPrefix {quote : Char} {text taken meant : List Char}
    (h : quotedBody quote text = some (taken, meant)) : taken <+: text := by
  fun_induction quotedBody quote text generalizing taken meant with
  | case1 => cases h
  | case2 => cases h
  | case3 c rest ih =>
    obtain ⟨⟨taken', meant'⟩, hbody, heq⟩ := Option.map_eq_some_iff.mp h
    obtain ⟨rfl, -⟩ := Prod.mk.inj heq
    exact (List.prefix_cons_inj _).mpr ((List.prefix_cons_inj c).mpr (ih hbody))
  | case4 rest =>
    obtain ⟨rfl, -⟩ := Prod.mk.inj (Option.some.inj h)
    exact List.prefix_append [quote] rest
  | case5 c rest _ _ _ ih =>
    obtain ⟨⟨taken', meant'⟩, hbody, heq⟩ := Option.map_eq_some_iff.mp h
    obtain ⟨rfl, -⟩ := Prod.mk.inj heq
    exact (List.prefix_cons_inj c).mpr (ih hbody)

/-- A quoted string takes what stands up to its closing quote. -/
theorem quoted_more {quote : Char} (h : quoted quote rest = .ok l) :
    l.more <+: rest ∧ l.kind = .string := by
  unfold quoted at h
  split at h
  · next taken meant hbody =>
    obtain rfl := Except.ok.inj h
    exact ⟨quotedBody_isPrefix hbody, rfl⟩
  · cases h

/-- A quoted name takes the closing quote behind what it means. -/
theorem quotedName_more (h : quotedName rest = .ok l) :
    l.more <+: rest ∧ l.kind = .identifier ∧ l.more = l.text.toList ++ ['\x60'] := by
  unfold quotedName at h
  dsimp only at h
  split_ifs at h with hclosed
  obtain rfl := Except.ok.inj h
  refine ⟨?_, rfl, by rw [String.toList_ofList]⟩
  have hsplit : rest.takeWhile (· ≠ '\x60') ++ rest.dropWhile (· ≠ '\x60') = rest :=
    List.takeWhile_append_dropWhile
  -- the name does not take all that is left, and what stops it is a quote
  have hhead := List.head?_dropWhile_not (· ≠ '\x60') rest
  cases hafter : rest.dropWhile (· ≠ '\x60') with
  | nil =>
    rw [hafter, List.append_nil] at hsplit
    rw [hsplit] at hclosed
    exact (Nat.lt_irrefl _ hclosed).elim
  | cons c after =>
    rw [hafter] at hhead hsplit
    obtain rfl : c = '\x60' := by simpa using hhead
    refine ⟨after, ?_⟩
    rw [List.append_assoc]
    exact hsplit

theorem read_spells (h : read c rest = .ok l) :
    l.more <+: rest ∧ Spells l.kind l.text (c :: l.more) := by
  have hplain : c ≠ '\x60' → Plain c rest l →
      l.more <+: rest ∧ Spells l.kind l.text (c :: l.more) :=
    fun hc hl => ⟨hl.more, hl.spells hc⟩
  unfold read at h
  split_ifs at h with hquote hname hhyphen hdigit hword hdots harrow
  · obtain ⟨hmore, hkind⟩ := quoted_more h
    refine ⟨hmore, fun _ => List.cons_ne_nil c l.more, fun hne => (hne hkind).elim, fun hc => ?_⟩
    obtain rfl := Option.some.inj hc
    exact absurd hquote (by decide)
  · obtain ⟨hmore, hkind, hwritten⟩ := quotedName_more h
    subst hname
    refine ⟨hmore, fun _ => List.cons_ne_nil _ l.more, fun _ hne => (hne rfl).elim, fun _ => ?_⟩
    exact ⟨hkind, congrArg _ hwritten⟩
  · obtain rfl := Except.ok.inj h
    subst hhyphen
    exact hplain hname (hyphen_plain rest)
  · obtain rfl := Except.ok.inj h
    exact hplain hname (number_plain c rest)
  · obtain rfl := Except.ok.inj h
    exact hplain hname (word_plain c rest)
  · obtain rfl := Except.ok.inj h
    exact hplain hname (sign_plain .dotDot c (List.singleton_prefix_iff_head?_eq_some.mpr hdots.2))
  · obtain rfl := Except.ok.inj h
    exact hplain hname
      (sign_plain .leftArrow c (List.singleton_prefix_iff_head?_eq_some.mpr harrow.2))
  · split at h
    · next kind _ =>
      obtain rfl := Except.ok.inj h
      exact hplain hname (sign_plain kind c List.nil_prefix)
    · cases h

end Lexeme

/-! ### Tokens in a text -/

namespace Token

variable {position : Nat} {tokens : List Token} {t : Token}

/-- A token takes a part of a text. -/
def Takes (text : String) (t : Token) : Prop :=
  ∃ part, Slice text t.start t.stop part ∧ Spells t.kind t.text part

/-- The mark of the end of a text. -/
def endOf (text : String) : Token := ⟨.endOfText, text.utf8ByteSize, text.utf8ByteSize, ""⟩

/-- How tokens lie in a text from a position on. -/
structure LaidOut (text : String) (position : Nat) (tokens : List Token) : Prop where
  /-- The mark of the end, which stands there, comes last and nowhere else. -/
  ends : ∃ body, tokens = body ++ [endOf text] ∧ ∀ t ∈ body, t.kind ≠ .endOfText
  takes : ∀ t ∈ tokens, t.Takes text
  behind : ∀ t ∈ tokens, position ≤ t.start
  apart : tokens.Pairwise fun t u => t.stop ≤ u.start
  /-- There are only blanks in front of the first token. -/
  lead : ∀ t ∈ tokens.head?, BlankBetween text position t.start
  /-- There are only blanks between a token and the next. -/
  gaps : tokens.IsChain fun t u => BlankBetween text t.stop u.start

theorem LaidOut.endOf (text : String) : LaidOut text text.utf8ByteSize [endOf text] := by
  have hwhole : text.toList = text.toList ++ [] := (List.append_nil _).symm
  have hlength := byteLength_toList text
  refine ⟨⟨[], rfl, fun t ht => (List.not_mem_nil ht).elim⟩, fun t ht => ?_, fun t ht => ?_,
    List.pairwise_singleton .., fun t ht => ?_, List.isChain_singleton _⟩
  · obtain rfl := List.mem_singleton.mp ht
    refine ⟨[], ⟨text.toList, [], ?_, hlength, ?_⟩, ?_⟩
    · rw [List.append_nil, List.append_nil]
    · rw [List.append_nil, hlength]
      rfl
    · exact ⟨fun h => (h rfl).elim, fun _ _ => rfl, fun h => by cases h⟩
  · obtain rfl := List.mem_singleton.mp ht
    exact Nat.le_refl _
  · obtain rfl := Option.some.inj ht
    exact .refl hwhole hlength

/-- A blank may stand in front of tokens. -/
theorem LaidOut.blank {c : Char} (hc : Text.isBlank c) (hslice : Slice text start next [c])
    (h : LaidOut text next tokens) : LaidOut text start tokens where
  ends := h.ends
  takes := h.takes
  behind t ht := by
    have hstart := hslice.start_add
    exact (hstart ▸ Nat.le_add_right ..).trans (h.behind t ht)
  apart := h.apart
  lead t ht := (h.lead t ht).cons hc hslice
  gaps := h.gaps

/-- A token may stand in front of tokens. -/
theorem LaidOut.cons (htakes : t.Takes text) (hkind : t.kind ≠ .endOfText)
    (h : LaidOut text t.stop tokens) : LaidOut text t.start (t :: tokens) := by
  obtain ⟨body, rfl, hbody⟩ := h.ends
  obtain ⟨part, hslice, -⟩ := id htakes
  have hle : t.start ≤ t.stop := hslice.start_add ▸ Nat.le_add_right ..
  refine ⟨⟨t :: body, rfl, List.forall_mem_cons.mpr ⟨hkind, hbody⟩⟩,
    List.forall_mem_cons.mpr ⟨htakes, h.takes⟩,
    List.forall_mem_cons.mpr ⟨Nat.le_refl _, fun u hu => hle.trans (h.behind u hu)⟩,
    List.pairwise_cons.mpr ⟨h.behind, h.apart⟩, fun u hu => ?_,
    List.isChain_cons.mpr ⟨h.lead, h.gaps⟩⟩
  obtain rfl := Option.some.inj hu
  exact hslice.blankBetween_start

/-- The tokens of what is left of a text lie in the text. -/
theorem ofChars_laidOut {rest before : List Char} (htext : text.toList = before ++ rest)
    (hposition : byteLength before = position) (h : ofChars position rest = .ok tokens) :
    LaidOut text position tokens := by
  induction position, rest using ofChars.induct generalizing tokens before with
  | case1 position =>
    rw [ofChars] at h
    obtain rfl := Except.ok.inj h
    have hend : position = text.utf8ByteSize := by
      rw [← hposition, ← byteLength_toList, htext, List.append_nil]
    subst hend
    exact .endOf text
  | case2 position c rest hblank ih =>
    rw [ofChars, if_pos hblank] at h
    have hskip : text.toList = (before ++ [c]) ++ rest := by simpa using htext
    have hnext : byteLength (before ++ [c]) = position + c.utf8Size := by simp [hposition]
    exact .blank hblank ⟨before, rest, hskip, hposition, hnext⟩ (ih hskip hnext h)
  | case3 position c rest hblank fault hread =>
    rw [ofChars, if_neg hblank, hread] at h
    cases h
  | case4 position c rest hblank lexeme hread stop e hothers =>
    rw [ofChars, if_neg hblank, hread] at h
    dsimp only at h
    rw [hothers] at h
    cases h
  | case5 position c rest hblank lexeme hread stop others hothers =>
    rename_i ih
    rw [ofChars, if_neg hblank, hread] at h
    dsimp only at h
    rw [hothers] at h
    obtain rfl := Except.ok.inj h
    obtain ⟨⟨after, hafter⟩, hspells⟩ := Lexeme.read_spells hread
    have hrest : rest.drop lexeme.more.length = after := by rw [← hafter, List.drop_left]
    have htaken : text.toList = (before ++ c :: lexeme.more) ++ after := by
      rw [htext, ← hafter]
      simp
    have hstop : byteLength (before ++ c :: lexeme.more) = stop := by
      rw [byteLength_append, hposition]
    have htakes : Takes text ⟨lexeme.kind, position, stop, lexeme.text⟩ :=
      ⟨c :: lexeme.more, ⟨before, after, htaken, hposition, hstop⟩, hspells⟩
    exact LaidOut.cons htakes (Lexeme.read_proper hread).not_end
      (ih (hrest ▸ htaken) hstop hothers)

/-- What cannot be divided is refused at one of its characters. -/
theorem ofChars_error {rest : List Char} {e : Error} (h : ofChars position rest = .error e) :
    ∃ before c after fault, rest = before ++ c :: after ∧
      e = .patternSyntax (position + byteLength before) fault := by
  induction position, rest using ofChars.induct with
  | case1 position =>
    rw [ofChars] at h
    cases h
  | case2 position c rest hblank ih =>
    rw [ofChars, if_pos hblank] at h
    obtain ⟨before, d, after, fault, rfl, rfl⟩ := ih h
    refine ⟨c :: before, d, after, fault, rfl, ?_⟩
    rw [byteLength_cons, Nat.add_assoc]
  | case3 position c rest hblank fault hread =>
    rw [ofChars, if_neg hblank, hread] at h
    exact ⟨[], c, rest, fault, rfl, (Except.error.inj h).symm⟩
  | case4 position c rest hblank lexeme hread stop e hothers =>
    rename_i ih
    rw [ofChars, if_neg hblank, hread] at h
    dsimp only at h
    rw [hothers] at h
    obtain rfl := Except.error.inj h
    obtain ⟨⟨taken, htaken⟩, -⟩ := Lexeme.read_spells hread
    obtain ⟨before, d, after, fault, hrest, rfl⟩ := ih hothers
    rw [← htaken, List.drop_left] at hrest
    refine ⟨c :: lexeme.more ++ before, d, after, fault, ?_, ?_⟩
    · rw [← htaken, hrest]
      simp
    · rw [byteLength_append, Nat.add_assoc]
  | case5 position c rest hblank lexeme hread stop others hothers =>
    rw [ofChars, if_neg hblank, hread] at h
    dsimp only at h
    rw [hothers] at h
    cases h

/-- **Nothing is lost between tokens.**  The tokens of a text lie in it one after the other, between
blanks, and those that are not quoted mean what is written.  The position at which a text is refused
is that of one of its characters. -/
theorem ofText_laidOut (text : String) :
    (∀ tokens, ofText text = .ok tokens → LaidOut text 0 tokens) ∧
      ∀ e, ofText text = .error e → ∃ before c after fault,
        text.toList = before ++ c :: after ∧ e = .patternSyntax (byteLength before) fault := by
  refine ⟨fun tokens h => ofChars_laidOut (List.nil_append _).symm byteLength_nil h, fun e h => ?_⟩
  obtain ⟨before, c, after, fault, htext, rfl⟩ := ofChars_error h
  exact ⟨before, c, after, fault, htext, by rw [Nat.zero_add]⟩

theorem ofText_laidOut_quotedName :
    (∃ tokens, ofText "(\x60é b\x60 *-1.5" = .ok tokens ∧ LaidOut "(\x60é b\x60 *-1.5" 0 tokens ∧
        tokens.map (fun t => (t.start, t.stop, t.text))
          = [(0, 1, "("), (1, 7, "é b"), (8, 9, "*"), (9, 13, "-1.5"), (13, 13, "")]) ∧
      ∃ e, ofText "(é;" = .error e ∧ ∃ before c after fault,
        "(é;".toList = before ++ c :: after ∧ e = .patternSyntax (byteLength before) fault := by
  constructor
  · have hspans : (ofText "(\x60é b\x60 *-1.5").toOption.map
          (List.map fun t => (t.start, t.stop, t.text))
        = some [(0, 1, "("), (1, 7, "é b"), (8, 9, "*"), (9, 13, "-1.5"), (13, 13, "")] := by
      decide +kernel
    cases h : ofText "(\x60é b\x60 *-1.5" with
    | error e =>
      rw [h] at hspans
      cases hspans
    | ok tokens =>
      rw [h] at hspans
      exact ⟨tokens, rfl, (ofText_laidOut _).1 tokens h, Option.some.inj hspans⟩
  · have hrefused : (ofText "(é;").toBool = false := by decide +kernel
    cases h : ofText "(é;" with
    | error e => exact ⟨e, rfl, (ofText_laidOut _).2 e h⟩
    | ok tokens =>
      rw [h] at hrefused
      cases hrefused

end Token

end PropertyGraph
