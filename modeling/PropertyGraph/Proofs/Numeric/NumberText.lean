import Mathlib.Data.List.TakeWhile
import PropertyGraph.Numeric.Decimal
import PropertyGraph.Proofs.Numeric.Overflow

/-!
# Numbers as text

`NumberText` says without reference to a reader which texts denote a number:

    number   := ('+' | '-')? unsigned
    unsigned := word | decimal
    decimal  := (digit+ | digit* '.' digit*) exponent?      with a digit before the exponent
    exponent := ('e' | 'E') ('+' | '-')? digit+

The words are `inf`, `infinity` and `nan` in any case.  `Binary64.ofUnsigned?_eq_some_iff` states
that these texts are read, each as the number it denotes.  So a text denotes a finite number if it
writes a decimal below `Binary64.overflowThreshold`, and infinity if it writes one that is not below
or is a word for it; `Binary64.ofText?_cases` states this with a sign in front.
-/

namespace PropertyGraph

/-- The number that a decimal stands for. -/
def Decimal.value (d : Decimal) : Rat := d.digits * 10 ^ d.exponent

/-! ### Texts -/

namespace NumberText

/-- What may stand before a number and before an exponent. -/
def signs : List (List Char) := [[], ['+'], ['-']]

/-- The text of an exponent, which may be left out. -/
inductive Exponent : List Char → Int → Prop where
  | absent : Exponent [] 0
  | present {letter : Char} {sign ds : List Char} (hletter : letter = 'e' ∨ letter = 'E')
    (hsign : sign ∈ signs) (hne : ds ≠ []) (hds : ∀ c ∈ ds, c.isDigit) :
    Exponent (letter :: sign ++ ds)
      (if sign = ['-'] then -(Binary64.ofDigits ds : Int) else Binary64.ofDigits ds)

/-- The text of a decimal.  Each digit behind the point lowers the exponent by one. -/
inductive Unsigned : List Char → Decimal → Prop where
  | whole {ds rest : List Char} {e : Int} (hne : ds ≠ []) (hds : ∀ c ∈ ds, c.isDigit)
    (he : Exponent rest e) : Unsigned (ds ++ rest) ⟨Binary64.ofDigits ds, e⟩
  | pointed {ds fs rest : List Char} {e : Int} (hne : ds ≠ [] ∨ fs ≠ [])
    (hds : ∀ c ∈ ds, c.isDigit) (hfs : ∀ c ∈ fs, c.isDigit) (he : Exponent rest e) :
    Unsigned (ds ++ '.' :: (fs ++ rest)) ⟨Binary64.ofDigits (ds ++ fs), e - fs.length⟩

/-- The text is one of some words in any case. -/
def IsWord (words : List String) (text : List Char) : Prop :=
  String.ofList (text.map Char.toLower) ∈ words

instance (words : List String) (text : List Char) : Decidable (IsWord words text) :=
  inferInstanceAs (Decidable (_ ∈ words))

/-- A decimal that is not too large to be finite. -/
def DenotesFinite (text : List Char) : Prop :=
  ∃ d, Unsigned text d ∧ d.value < Binary64.overflowThreshold

/-- A word for infinity, or a decimal that is too large to be finite. -/
def DenotesInfinity (text : List Char) : Prop :=
  IsWord ["inf", "infinity"] text ∨ ∃ d, Unsigned text d ∧ Binary64.overflowThreshold ≤ d.value

def DenotesNaN (text : List Char) : Prop := IsWord ["nan"] text

/-- What is left of the text behind a sign has a property. -/
def Signed (p : List Char → Prop) (text : List Char) : Prop :=
  ∃ sign ∈ signs, ∃ rest, text = sign ++ rest ∧ p rest

theorem Exponent.head_not_isDigit {text : List Char} {e : Int} (h : Exponent text e) :
    ∀ c, text.head? = some c → c.isDigit = false ∧ c ≠ '.' := by
  intro c hc
  cases h with
  | absent => cases hc
  | present hletter =>
    obtain rfl := Option.some.inj hc
    rcases hletter with rfl | rfl <;> decide

theorem Signed.imp {p q : List Char → Prop} {text : List Char} (h : Signed p text)
    (hpq : ∀ rest, p rest → q rest) : Signed q text := by
  obtain ⟨sign, hsign, rest, heq, hrest⟩ := h
  exact ⟨sign, hsign, rest, heq, hpq rest hrest⟩

end NumberText

namespace Binary64

open NumberText

/-! ### Exponents -/

theorem takeWhile_isDigit_append {ds rest : List Char} (hds : ∀ c ∈ ds, c.isDigit)
    (hrest : ∀ c, rest.head? = some c → c.isDigit = false) :
    (ds ++ rest).takeWhile Char.isDigit = ds ∧ (ds ++ rest).dropWhile Char.isDigit = rest := by
  have hstop : rest.takeWhile Char.isDigit = [] ∧ rest.dropWhile Char.isDigit = rest := by
    cases rest with
    | nil => exact ⟨rfl, rfl⟩
    | cons c rest => simp [hrest c rfl]
  rw [List.takeWhile_append_of_pos hds, List.dropWhile_append_of_pos hds, hstop.1, hstop.2,
    List.append_nil]
  exact ⟨rfl, rfl⟩

/-- Whether a text begins with a minus sign, and what stands behind its sign. -/
def splitSign (text : List Char) : Bool × List Char :=
  match text with
  | '-' :: ds => (true, ds)
  | '+' :: ds => (false, ds)
  | ds => (false, ds)

theorem splitSign_append {sign rest : List Char} (hsign : sign ∈ signs)
    (hrest : rest.head? ≠ some '-' ∧ rest.head? ≠ some '+') :
    splitSign (sign ++ rest) = (decide (sign = ['-']), rest) := by
  simp only [signs, List.mem_cons, List.not_mem_nil, or_false] at hsign
  rcases hsign with rfl | rfl | rfl
  · unfold splitSign
    split
    · next heq => exact absurd (congrArg List.head? heq) hrest.1
    · next heq => exact absurd (congrArg List.head? heq) hrest.2
    · rfl
  · rfl
  · rfl

theorem splitSign_spec (text : List Char) :
    ∃ sign ∈ signs, text = sign ++ (splitSign text).2 ∧
      (splitSign text).1 = decide (sign = ['-']) := by
  unfold splitSign
  split
  · exact ⟨['-'], by decide, rfl, rfl⟩
  · exact ⟨['+'], by decide, rfl, rfl⟩
  · exact ⟨[], by decide, rfl, rfl⟩

theorem exponentOf?_cons {letter : Char} (h : letter = 'e' ∨ letter = 'E') (rest : List Char) :
    exponentOf? (letter :: rest)
      = if (splitSign rest).2.isEmpty || !(splitSign rest).2.all Char.isDigit then none
        else some (if (splitSign rest).1 then -(ofDigits (splitSign rest).2 : Int)
          else ofDigits (splitSign rest).2) := by
  unfold exponentOf?
  dsimp only
  rw [if_pos h]
  rfl

theorem exponentOf?_eq_some_iff {text : List Char} {e : Int} :
    exponentOf? text = some e ↔ Exponent text e := by
  constructor
  · intro h
    cases text with
    | nil =>
      obtain rfl := Option.some.inj h
      exact .absent
    | cons letter rest =>
      by_cases hletter : letter = 'e' ∨ letter = 'E'
      · rw [exponentOf?_cons hletter, Option.ite_none_left_eq_some, Bool.or_eq_true, not_or,
          List.isEmpty_iff, Bool.not_eq_true', Bool.not_eq_false, List.all_eq_true] at h
        obtain ⟨⟨hne, hds⟩, heq⟩ := h
        obtain ⟨sign, hsign, hrest, hminus⟩ := splitSign_spec rest
        have hpresent := Exponent.present hletter hsign hne hds
        rw [List.cons_append, ← hrest] at hpresent
        simp only [hminus, decide_eq_true_eq] at heq
        exact Option.some.inj heq ▸ hpresent
      · unfold exponentOf? at h
        dsimp only at h
        rw [if_neg hletter] at h
        cases h
  · intro h
    cases h with
    | absent => rfl
    | @present letter sign ds hletter hsign hne hds =>
      have hall : (ds.isEmpty || !ds.all Char.isDigit) = false := by
        rw [Bool.or_eq_false_iff, Bool.not_eq_false', List.all_eq_true]
        exact ⟨by simpa using hne, hds⟩
      have hhead : ds.head? ≠ some '-' ∧ ds.head? ≠ some '+' :=
        ⟨fun hc => absurd (hds _ (List.mem_of_head? hc)) (by decide),
          fun hc => absurd (hds _ (List.mem_of_head? hc)) (by decide)⟩
      rw [List.cons_append, exponentOf?_cons hletter, splitSign_append hsign hhead, hall]
      simp

/-! ### Decimals -/

/-- The digits behind a point, and what stands behind them. -/
def splitPoint (text : List Char) : List Char × List Char :=
  match text with
  | '.' :: tail => (tail.takeWhile Char.isDigit, tail.dropWhile Char.isDigit)
  | _ => ([], text)

/-- The decimal that a text writes. -/
def decimalOf? (text : List Char) : Option Decimal :=
  let whole := text.takeWhile Char.isDigit
  let (fraction, rest) := splitPoint (text.dropWhile Char.isDigit)
  if whole.isEmpty && fraction.isEmpty then none
  else (exponentOf? rest).map fun e => ⟨ofDigits (whole ++ fraction), e - fraction.length⟩

theorem ofUnsigned?_eq (text : List Char) : ofUnsigned? text
    = if IsWord ["inf", "infinity"] text then some infinity
      else if IsWord ["nan"] text then some nan
      else (decimalOf? text).map fun d => ofDecimal d.digits d.exponent := by
  unfold ofUnsigned?
  refine if_congr (by simp [IsWord]) rfl (if_congr (by simp [IsWord]) rfl ?_)
  unfold decimalOf?
  dsimp only
  rw [apply_ite (Option.map _), Option.map_map, Option.map_none]
  rfl

theorem decimalOf?_append {ds tail fs rest : List Char} (hds : ∀ c ∈ ds, c.isDigit)
    (htail : ∀ c, tail.head? = some c → c.isDigit = false) (hsplit : splitPoint tail = (fs, rest)) :
    decimalOf? (ds ++ tail) = if ds = [] ∧ fs = [] then none
      else (exponentOf? rest).map fun e => ⟨ofDigits (ds ++ fs), e - fs.length⟩ := by
  obtain ⟨htake, hdrop⟩ := takeWhile_isDigit_append hds htail
  unfold decimalOf?
  rw [htake, hdrop, hsplit]
  refine if_congr ?_ rfl rfl
  rw [Bool.and_eq_true, List.isEmpty_iff, List.isEmpty_iff]

theorem splitPoint_of_head?_ne {tail : List Char} (h : tail.head? ≠ some '.') :
    splitPoint tail = ([], tail) := by
  unfold splitPoint
  split
  · exact absurd rfl h
  · rfl

theorem splitPoint_append {fs rest : List Char} (hfs : ∀ c ∈ fs, c.isDigit)
    (hrest : ∀ c, rest.head? = some c → c.isDigit = false) :
    splitPoint ('.' :: (fs ++ rest)) = (fs, rest) := by
  obtain ⟨htake, hdrop⟩ := takeWhile_isDigit_append hfs hrest
  rw [splitPoint, htake, hdrop]

theorem point_not_isDigit (tail : List Char) :
    ∀ c, ('.' :: tail).head? = some c → c.isDigit = false := by
  intro c hc
  obtain rfl := Option.some.inj hc
  decide

theorem exists_digits_append (text : List Char) : ∃ ds rest : List Char, text = ds ++ rest ∧
    (∀ c ∈ ds, c.isDigit) ∧ ∀ c, rest.head? = some c → c.isDigit = false := by
  refine ⟨text.takeWhile Char.isDigit, text.dropWhile Char.isDigit,
    List.takeWhile_append_dropWhile.symm, fun c hc => List.mem_takeWhile_imp hc, fun c hc => ?_⟩
  have hstop := List.head?_dropWhile_not Char.isDigit text
  rw [hc] at hstop
  exact hstop

/-- The texts of decimals are read, and no others. -/
theorem decimalOf?_eq_some_iff {text : List Char} {d : Decimal} :
    decimalOf? text = some d ↔ Unsigned text d := by
  constructor
  · intro h
    obtain ⟨ds, tail, rfl, hds, htail⟩ := exists_digits_append text
    by_cases hpoint : tail.head? = some '.'
    · obtain ⟨tail, rfl⟩ := List.head?_eq_some_iff.mp hpoint
      obtain ⟨fs, rest, rfl, hfs, hrest⟩ := exists_digits_append tail
      rw [decimalOf?_append hds htail (splitPoint_append hfs hrest), Option.ite_none_left_eq_some,
        not_and_or, Option.map_eq_some_iff] at h
      obtain ⟨hne, e, he, rfl⟩ := h
      exact .pointed hne hds hfs (exponentOf?_eq_some_iff.mp he)
    · rw [decimalOf?_append hds htail (splitPoint_of_head?_ne hpoint),
        Option.ite_none_left_eq_some, and_iff_left rfl, Option.map_eq_some_iff] at h
      obtain ⟨hne, e, he, rfl⟩ := h
      rw [List.append_nil, List.length_nil, Int.ofNat_zero, Int.sub_zero]
      exact .whole hne hds (exponentOf?_eq_some_iff.mp he)
  · intro h
    cases h with
    | whole hne hds he =>
      have hhead := he.head_not_isDigit
      rw [decimalOf?_append hds (fun c hc => (hhead c hc).1)
        (splitPoint_of_head?_ne fun hc => (hhead '.' hc).2 rfl),
        exponentOf?_eq_some_iff.mpr he, if_neg fun h => hne h.1, List.append_nil]
      simp
    | pointed hne hds hfs he =>
      rw [decimalOf?_append hds (point_not_isDigit _)
        (splitPoint_append hfs fun c hc => (he.head_not_isDigit c hc).1),
        exponentOf?_eq_some_iff.mpr he, if_neg (not_and_or.mpr hne)]
      rfl

/-! ### Numbers without a sign -/

theorem head_of_unsigned {text : List Char} {d : Decimal} (h : Unsigned text d) :
    ∃ c rest, text = c :: rest ∧ (c.isDigit = true ∨ c = '.') := by
  cases h with
  | whole hne hds _ =>
    obtain ⟨c, ds, rfl⟩ := List.exists_cons_of_ne_nil hne
    exact ⟨c, _, List.cons_append, Or.inl (hds c List.mem_cons_self)⟩
  | @pointed ds _ _ _ _ hds _ _ =>
    cases ds with
    | nil => exact ⟨'.', _, rfl, Or.inr rfl⟩
    | cons c ds => exact ⟨c, _, rfl, Or.inl (hds c List.mem_cons_self)⟩

theorem toLower_of_isDigit {c : Char} (h : c.isDigit = true) : c.toLower = c := by
  refine dif_neg fun hupper => ?_
  have hlow : 'A'.toNat ≤ c.toNat := UInt32.le_iff_toNat_le.mp hupper.1
  have hhigh : c.toNat ≤ '9'.toNat := (Char.isDigit_iff_toNat.mp h).2
  exact absurd (hlow.trans hhigh) (by decide)

/-- The words for infinity and NaN begin with one of two letters. -/
theorem not_isWord_of_head {c : Char} (hi : c.toLower ≠ 'i') (hn : c.toLower ≠ 'n')
    (rest : List Char) :
    ¬ IsWord ["inf", "infinity"] (c :: rest) ∧ ¬ IsWord ["nan"] (c :: rest) := by
  have hhead {words : List String} (hword : IsWord words (c :: rest)) :
      ∃ word ∈ words, word.toList.head? = some c.toLower :=
    ⟨_, hword, by rw [String.toList_ofList]; rfl⟩
  constructor
  · intro hword
    obtain ⟨word, hmem, hfirst⟩ := hhead hword
    simp only [List.mem_cons, List.not_mem_nil, or_false] at hmem
    rcases hmem with rfl | rfl <;> exact hi (Option.some.inj hfirst).symm
  · intro hword
    obtain ⟨word, hmem, hfirst⟩ := hhead hword
    obtain rfl := List.mem_singleton.mp hmem
    exact hn (Option.some.inj hfirst).symm

/-- No decimal is a word, as it begins with a digit or a point. -/
theorem not_isWord_of_unsigned {text : List Char} {d : Decimal} (h : Unsigned text d) :
    ¬ IsWord ["inf", "infinity"] text ∧ ¬ IsWord ["nan"] text := by
  obtain ⟨c, rest, rfl, hdigit | rfl⟩ := head_of_unsigned h
  · refine not_isWord_of_head ?_ ?_ rest
    all_goals
      rw [toLower_of_isDigit hdigit]
      rintro rfl
      revert hdigit
      decide
  · exact not_isWord_of_head (by decide) (by decide) rest

theorem not_isWord_nan {text : List Char} (h : IsWord ["inf", "infinity"] text) :
    ¬ IsWord ["nan"] text := by
  intro hnan
  unfold IsWord at h
  rw [List.mem_singleton.mp hnan] at h
  revert h
  decide

/-- **Texts of numbers.**  A text without a sign is read as infinity or NaN if it is a word for it,
as the number next to a decimal if it writes one, and not at all otherwise. -/
theorem ofUnsigned?_eq_some_iff {text : List Char} {x : Binary64} :
    ofUnsigned? text = some x ↔
      (IsWord ["inf", "infinity"] text ∧ x = infinity) ∨ (IsWord ["nan"] text ∧ x = nan) ∨
        ∃ d, Unsigned text d ∧ x = ofDecimal d.digits d.exponent := by
  have hinf' (hinf : IsWord ["inf", "infinity"] text) (d : Decimal) : ¬ Unsigned text d :=
    fun hd => (not_isWord_of_unsigned hd).1 hinf
  have hnan' (hnan : IsWord ["nan"] text) (d : Decimal) : ¬ Unsigned text d :=
    fun hd => (not_isWord_of_unsigned hd).2 hnan
  rw [ofUnsigned?_eq]
  split_ifs with hinf hnan
  · simp [hinf, not_isWord_nan hinf, hinf' hinf, eq_comm]
  · simp [hinf, hnan, hnan' hnan, eq_comm]
  · simp only [hinf, hnan, false_and, false_or, Option.map_eq_some_iff, decimalOf?_eq_some_iff,
      @eq_comm _ x]

/-! ### Kinds of numbers -/

theorem ofUnsigned?_of_denotesFinite {text : List Char} (h : DenotesFinite text) :
    ∃ x, ofUnsigned? text = some x ∧ x.isFinite = true := by
  obtain ⟨d, hd, hvalue⟩ := h
  exact ⟨_, ofUnsigned?_eq_some_iff.mpr (Or.inr (Or.inr ⟨d, hd, rfl⟩)),
    (isFinite_ofDecimal_iff _ _).mpr hvalue⟩

theorem ofUnsigned?_of_denotesInfinity {text : List Char} (h : DenotesInfinity text) :
    ofUnsigned? text = some infinity := by
  refine ofUnsigned?_eq_some_iff.mpr (h.imp (fun hword => ⟨hword, rfl⟩) ?_)
  rintro ⟨d, hd, hvalue⟩
  have hlarge := mt (isFinite_ofDecimal_iff d.digits d.exponent).mp (not_lt.mpr hvalue)
  exact Or.inr ⟨d, hd, (ofDecimal_of_not_isFinite (Bool.eq_false_of_not_eq_true hlarge)).symm⟩

theorem ofUnsigned?_of_denotesNaN {text : List Char} (h : DenotesNaN text) :
    ofUnsigned? text = some nan :=
  ofUnsigned?_eq_some_iff.mpr (Or.inr (Or.inl ⟨h, rfl⟩))

/-- A text without a sign is read as a finite number, infinity or NaN if it denotes one. -/
theorem ofUnsigned?_cases {text : List Char} {x : Binary64} (h : ofUnsigned? text = some x) :
    (x.isFinite = true ∧ DenotesFinite text) ∨ (x = infinity ∧ DenotesInfinity text) ∨
      (x = nan ∧ DenotesNaN text) := by
  rcases ofUnsigned?_eq_some_iff.mp h with ⟨hword, rfl⟩ | ⟨hword, rfl⟩ | ⟨d, hd, rfl⟩
  · exact Or.inr (Or.inl ⟨rfl, Or.inl hword⟩)
  · exact Or.inr (Or.inr ⟨rfl, hword⟩)
  · by_cases hvalue : d.value < overflowThreshold
    · exact Or.inl ⟨(isFinite_ofDecimal_iff _ _).mpr hvalue, d, hd, hvalue⟩
    · have hinfinity : DenotesInfinity text := Or.inr ⟨d, hd, not_lt.mp hvalue⟩
      have hread := h.symm.trans (ofUnsigned?_of_denotesInfinity hinfinity)
      exact Or.inr (Or.inl ⟨Option.some.inj hread, hinfinity⟩)

/-! ### Numbers with a sign -/

/-- The number with the sign that a text begins with. -/
def withSign (text : List Char) (x : Binary64) : Binary64 :=
  if text.head? = some '-' then x.neg else x

theorem isFinite_withSign (text : List Char) (x : Binary64) :
    (withSign text x).isFinite = x.isFinite := by
  unfold withSign
  split
  · exact isFinite_neg x
  · rfl

theorem ofText?_eq (text : List Char) :
    ofText? text = (ofUnsigned? (splitSign text).2).map (withSign text) := by
  unfold ofText?
  split
  · rfl
  · exact (congrFun Option.map_id_fun _).symm
  · next hminus hplus =>
    have hhead : text.head? ≠ some '-' ∧ text.head? ≠ some '+' := by
      constructor <;> intro hc <;> obtain ⟨rest, rfl⟩ := List.head?_eq_some_iff.mp hc
      · exact hminus rest rfl
      · exact hplus rest rfl
    have hsplit : splitSign text = (false, text) := @splitSign_append [] text (by decide) hhead
    have hsame : withSign text = id := funext fun x => if_neg hhead.1
    rw [hsplit, hsame, Option.map_id_fun, id]

/-- No text with a sign is read as a number without one. -/
theorem head_ne_sign_of_ofUnsigned? {text : List Char} {x : Binary64}
    (h : ofUnsigned? text = some x) : text.head? ≠ some '-' ∧ text.head? ≠ some '+' := by
  have hnone {c : Char} (hi : c.toLower ≠ 'i') (hn : c.toLower ≠ 'n') (hdigit : c.isDigit = false)
      (hpoint : c ≠ '.') : text.head? ≠ some c := by
    intro hhead
    obtain ⟨rest, rfl⟩ := List.head?_eq_some_iff.mp hhead
    obtain ⟨hinf, hnan⟩ := not_isWord_of_head hi hn rest
    rcases ofUnsigned?_eq_some_iff.mp h with ⟨hword, -⟩ | ⟨hword, -⟩ | ⟨d, hd, -⟩
    · exact hinf hword
    · exact hnan hword
    · obtain ⟨c', rest', heq, hc'⟩ := head_of_unsigned hd
      obtain ⟨rfl, -⟩ := List.cons.inj heq
      rw [hdigit] at hc'
      exact hpoint (hc'.resolve_left Bool.false_ne_true)
  exact ⟨hnone (by decide) (by decide) (by decide) (by decide),
    hnone (by decide) (by decide) (by decide) (by decide)⟩

theorem ofText?_eq_some_iff {text : List Char} {x : Binary64} : ofText? text = some x ↔
    ∃ y, Signed (ofUnsigned? · = some y) text ∧ x = withSign text y := by
  rw [ofText?_eq, Option.map_eq_some_iff]
  constructor
  · rintro ⟨y, hy, rfl⟩
    obtain ⟨sign, hsign, heq, -⟩ := splitSign_spec text
    exact ⟨y, ⟨sign, hsign, _, heq, hy⟩, rfl⟩
  · rintro ⟨y, ⟨sign, hsign, rest, rfl, hy⟩, rfl⟩
    refine ⟨y, ?_, rfl⟩
    rw [splitSign_append hsign (head_ne_sign_of_ofUnsigned? hy)]
    exact hy

theorem ofText?_of_denotesFinite {text : List Char} (h : Signed DenotesFinite text) :
    ∃ x, ofText? text = some x ∧ x.isFinite = true := by
  obtain ⟨sign, hsign, rest, heq, hrest⟩ := h
  obtain ⟨y, hy, hfinite⟩ := ofUnsigned?_of_denotesFinite hrest
  exact ⟨_, ofText?_eq_some_iff.mpr ⟨y, ⟨sign, hsign, rest, heq, hy⟩, rfl⟩,
    (isFinite_withSign text y).trans hfinite⟩

theorem ofText?_of_denotesInfinity {text : List Char} (h : Signed DenotesInfinity text) :
    ofText? text = some (withSign text infinity) :=
  ofText?_eq_some_iff.mpr ⟨infinity, h.imp fun _ => ofUnsigned?_of_denotesInfinity, rfl⟩

theorem ofText?_of_denotesNaN {text : List Char} (h : Signed DenotesNaN text) :
    ofText? text = some (withSign text nan) :=
  ofText?_eq_some_iff.mpr ⟨nan, h.imp fun _ => ofUnsigned?_of_denotesNaN, rfl⟩

/-- A text that is read as a number is read as the kind of number that it denotes. -/
theorem ofText?_cases {text : List Char} {x : Binary64} (h : ofText? text = some x) :
    (x.isFinite = true ∧ Signed DenotesFinite text) ∨
      (x = withSign text infinity ∧ Signed DenotesInfinity text) ∨
      (x = withSign text nan ∧ Signed DenotesNaN text) := by
  obtain ⟨y, ⟨sign, hsign, rest, heq, hy⟩, rfl⟩ := ofText?_eq_some_iff.mp h
  rcases ofUnsigned?_cases hy with ⟨hfinite, hrest⟩ | ⟨rfl, hrest⟩ | ⟨rfl, hrest⟩
  · exact Or.inl ⟨(isFinite_withSign text y).trans hfinite, sign, hsign, rest, heq, hrest⟩
  · exact Or.inr (Or.inl ⟨rfl, sign, hsign, rest, heq, hrest⟩)
  · exact Or.inr (Or.inr ⟨rfl, sign, hsign, rest, heq, hrest⟩)

end Binary64

end PropertyGraph
