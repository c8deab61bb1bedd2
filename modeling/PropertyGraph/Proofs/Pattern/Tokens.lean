import PropertyGraph.Pattern.Token
import PropertyGraph.Proofs.Numeric.NumberText

/-!
# Tokens of a text

`Token.ofText_spec` says what the tokens of a text are like: the mark of the end stands behind them
and nowhere else, and the text of a number with a fraction denotes one.  So a reader of tokens knows
the end when it sees it, and meets no number that it cannot read.
-/

namespace PropertyGraph

/-! ### Numbers with a fraction -/

namespace Binary64

open NumberText in
/-- Digits, a point and digits denote a number, and so they do behind a sign. -/
theorem ofText?_isSome {sign ds fs : List Char} (hsign : sign ∈ signs) (hne : ds ≠ [])
    (hds : ∀ c ∈ ds, c.isDigit) (hfs : ∀ c ∈ fs, c.isDigit) :
    (ofText? (sign ++ (ds ++ '.' :: fs))).isSome := by
  have hdecimal := Unsigned.pointed (Or.inl hne) hds hfs .absent
  rw [List.append_nil] at hdecimal
  have hread := ofUnsigned?_eq_some_iff.mpr (Or.inr (Or.inr ⟨_, hdecimal, rfl⟩))
  rw [ofText?_eq_some_iff.mpr ⟨_, ⟨sign, hsign, _, rfl, hread⟩, rfl⟩]
  rfl

end Binary64

namespace Token

/-- If the token is a number with a fraction, its text denotes one. -/
def IsReadable (t : Token) : Prop :=
  t.kind = .float → (Binary64.ofText? t.text.toList).isSome

/-- All numbers with a fraction among the tokens denote one. -/
def AllReadable (ts : List Token) : Prop := ∀ t ∈ ts, t.IsReadable

theorem AllReadable.of_cons {t : Token} {ts : List Token} (h : AllReadable (t :: ts)) :
    AllReadable ts :=
  fun u hu => h u (List.mem_cons_of_mem t hu)

theorem AllReadable.of_append {ts us : List Token} (h : AllReadable (ts ++ us)) : AllReadable us :=
  fun u hu => h u (List.mem_append_right ts hu)

end Token

/-! ### Lexemes -/

namespace Lexeme

/-- What the readers of lexemes have in common: no lexeme is a mark of the end, and a number with a
fraction can be read. -/
structure Proper (l : Lexeme) : Prop where
  not_end : l.kind ≠ .endOfText
  readable : l.kind = .float → (Binary64.ofText? l.text.toList).isSome

theorem Proper.of_kind {l : Lexeme} (kind : TokenKind) (h : l.kind = kind)
    (hend : kind ≠ .endOfText) (hfloat : kind ≠ .float) : l.Proper :=
  ⟨h ▸ hend, fun hkind => absurd (h ▸ hkind) hfloat⟩

theorem fraction_eq (text : List Char) :
    fraction text = [] ∨ ∃ fs, fs ≠ [] ∧ (∀ c ∈ fs, c.isDigit) ∧ fraction text = '.' :: fs := by
  unfold fraction
  split
  · next c rest =>
    split_ifs with hc
    · refine Or.inr ⟨(c :: rest).takeWhile Char.isDigit, ?_, fun d hd => ?_, rfl⟩
      · simp [hc]
      · exact List.mem_takeWhile_imp hd
    · exact Or.inl rfl
  · exact Or.inl rfl

/-- A number starts with a digit, or with a hyphen before a digit. -/
theorem number_proper {first : Char} {rest : List Char}
    (h : first.isDigit ∨ first = '-' ∧ ∃ c more, rest = c :: more ∧ c.isDigit) :
    (number first rest).Proper := by
  set digits := rest.takeWhile Char.isDigit with hdigits
  have hall : ∀ c ∈ digits, c.isDigit := fun c hc => List.mem_takeWhile_imp hc
  rcases fraction_eq (rest.dropWhile Char.isDigit) with hnone | ⟨fs, -, hfs, hsome⟩
  · exact .of_kind .integer (by simp [number, hnone]) (by decide) (by decide)
  · refine ⟨by simp [number, hsome], fun _ => ?_⟩
    have htext : (number first rest).text.toList = first :: digits ++ '.' :: fs := by
      simp [number, hsome, hdigits]
    rw [htext]
    rcases h with hfirst | ⟨rfl, c, more, rfl, hc⟩
    · have hds : ∀ c ∈ first :: digits, c.isDigit := List.forall_mem_cons.mpr ⟨hfirst, hall⟩
      exact @Binary64.ofText?_isSome [] _ _ (by decide) (List.cons_ne_nil first digits) hds hfs
    · -- the digit behind the hyphen is among the digits
      have hne : digits ≠ [] := by
        rw [hdigits, List.takeWhile_cons_of_pos hc]
        exact List.cons_ne_nil _ _
      exact @Binary64.ofText?_isSome ['-'] _ _ (by decide) hne hall hfs

theorem wordKind_ne (word : List Char) :
    wordKind word ≠ .endOfText ∧ wordKind word ≠ .float := by
  unfold wordKind
  dsimp only
  split_ifs <;> exact ⟨by decide, by decide⟩

theorem signKind?_ne {c : Char} {kind : TokenKind} (h : signKind? c = some kind) :
    kind ≠ .endOfText ∧ kind ≠ .float := by
  suffices hall : ∀ k, signKind? c = some k → k ≠ .endOfText ∧ k ≠ .float from hall kind h
  have hsome (found : TokenKind) (hfound : found ≠ .endOfText ∧ found ≠ .float) (k : TokenKind)
      (hk : some found = some k) : k ≠ .endOfText ∧ k ≠ .float := Option.some.inj hk ▸ hfound
  unfold signKind?
  -- one sign after the other: to split all of them at once takes long
  iterate 10
    refine iteInduction (motive := fun found : Option TokenKind =>
      ∀ k, found = some k → k ≠ .endOfText ∧ k ≠ .float) (fun _ => hsome _ (by decide)) fun _ => ?_
  nofun

theorem hyphen_proper (rest : List Char) : (hyphen rest).Proper := by
  unfold hyphen
  split
  · exact .of_kind .arrow rfl (by decide) (by decide)
  · next c more _ =>
    split_ifs with hc
    · exact number_proper (Or.inr ⟨rfl, c, more, rfl, hc⟩)
    · exact .of_kind .dash rfl (by decide) (by decide)
  · exact .of_kind .dash rfl (by decide) (by decide)

theorem read_proper {c : Char} {rest : List Char} {l : Lexeme} (h : read c rest = .ok l) :
    l.Proper := by
  unfold read at h
  split_ifs at h with hquote hback hhyphen hdigit hword hdots harrow
  · unfold quoted at h
    split at h
    · exact .of_kind .string (Except.ok.inj h ▸ rfl) (by decide) (by decide)
    · cases h
  · unfold quotedName at h
    dsimp only at h
    split_ifs at h
    exact .of_kind .identifier (Except.ok.inj h ▸ rfl) (by decide) (by decide)
  · obtain rfl := Except.ok.inj h
    exact hyphen_proper rest
  · obtain rfl := Except.ok.inj h
    exact number_proper (Or.inl hdigit)
  · obtain rfl := Except.ok.inj h
    exact .of_kind _ rfl (wordKind_ne _).1 (wordKind_ne _).2
  · exact .of_kind .dotDot (Except.ok.inj h ▸ rfl) (by decide) (by decide)
  · exact .of_kind .leftArrow (Except.ok.inj h ▸ rfl) (by decide) (by decide)
  · split at h
    · next kind hkind =>
      obtain rfl := Except.ok.inj h
      exact .of_kind _ rfl (signKind?_ne hkind).1 (signKind?_ne hkind).2
    · cases h

end Lexeme

/-! ### The tokens of a text -/

namespace Token

/-- Tokens of which only the last one, `stop`, marks the end, and whose numbers can be read. -/
structure EndsWith (body : List Token) (stop : Token) : Prop where
  stop_kind : stop.kind = .endOfText
  not_end : ∀ t ∈ body, t.kind ≠ .endOfText
  readable : AllReadable (body ++ [stop])

theorem EndsWith.nil {stop : Token} (h : stop.kind = .endOfText) : EndsWith [] stop := by
  refine ⟨h, fun t ht => (List.not_mem_nil ht).elim, fun t ht hfloat => ?_⟩
  obtain rfl := List.mem_singleton.mp ht
  rw [h] at hfloat
  cases hfloat

theorem EndsWith.cons {t stop : Token} {body : List Token} (h : EndsWith body stop)
    (hend : t.kind ≠ .endOfText) (hread : t.IsReadable) : EndsWith (t :: body) stop :=
  ⟨h.stop_kind, List.forall_mem_cons.mpr ⟨hend, h.not_end⟩,
    List.forall_mem_cons.mpr ⟨hread, h.readable⟩⟩

theorem ofChars_spec {position : Nat} {text : List Char} {tokens : List Token}
    (h : ofChars position text = .ok tokens) :
    ∃ body stop, tokens = body ++ [stop] ∧ EndsWith body stop := by
  induction position, text using ofChars.induct generalizing tokens with
  | case1 position =>
    rw [ofChars] at h
    exact ⟨[], _, (Except.ok.inj h).symm, EndsWith.nil rfl⟩
  | case2 position c rest hblank ih =>
    rw [ofChars, if_pos hblank] at h
    exact ih h
  | case3 position c rest hblank fault hread =>
    rw [ofChars, if_neg hblank, hread] at h
    cases h
  | case4 position c rest hblank lexeme hread stop e hothers =>
    rw [ofChars, if_neg hblank, hread] at h
    dsimp only at h
    rw [hothers] at h
    cases h
  | case5 position c rest hblank lexeme hread stop others hothers =>
    rename_i ih
    rw [ofChars, if_neg hblank, hread] at h
    dsimp only at h
    rw [hothers] at h
    have hproper := Lexeme.read_proper hread
    obtain ⟨body, last, rfl, hbody⟩ := ih hothers
    exact ⟨_ :: body, last, (Except.ok.inj h).symm,
      hbody.cons hproper.not_end hproper.readable⟩

/-- The mark of the end stands behind the tokens of a text and nowhere else, and the numbers among
them can be read. -/
theorem ofText_spec {text : String} {tokens : List Token} (h : ofText text = .ok tokens) :
    ∃ body stop, tokens = body ++ [stop] ∧ EndsWith body stop :=
  ofChars_spec h

end Token

end PropertyGraph
