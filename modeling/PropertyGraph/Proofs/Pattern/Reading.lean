import PropertyGraph.Pattern.Text
import PropertyGraph.Proofs.Pattern.Grammar
import PropertyGraph.Proofs.Pattern.Tokens

/-!
# Reading nodes

The readers of `PatternReader` read exactly the parts of the grammar (`Reads`): what a reader takes
derives from its part, and what derives from the part is taken, as long as no token follows with
which the part could go on.  There is one such fact for each reader, put together from those of the
readers that it calls.  Here they lead up to nodes (`node_reads`).
-/

namespace PropertyGraph

namespace PatternReader

open PatternGrammar

variable {α β : Type} {ts mid rest : List Token} {kind : TokenKind}

/-! ### Readers one behind the other -/

theorem bind_of_ok {r : PatternReader α} {f : α → PatternReader β} {a : α}
    (h : r ts = .ok (a, mid)) : (r >>= f) ts = f a mid := by
  show (r ts >>= fun p => f p.1 p.2) = f a mid
  rw [h]
  rfl

theorem bind_eq_ok {r : PatternReader α} {f : α → PatternReader β} {b : β} :
    (r >>= f) ts = .ok (b, rest) ↔ ∃ a mid, r ts = .ok (a, mid) ∧ f a mid = .ok (b, rest) := by
  constructor
  · intro h
    cases hr : r ts with
    | error e =>
      rw [show (r >>= f) ts = (r ts >>= fun p => f p.1 p.2) from rfl, hr] at h
      cases h
    | ok p => exact ⟨p.1, p.2, rfl, (bind_of_ok hr).symm.trans h⟩
  · rintro ⟨a, mid, hr, hf⟩
    rw [bind_of_ok hr, hf]

theorem of_pure {a b : α} (h : (pure a : PatternReader α) ts = .ok (b, rest)) :
    a = b ∧ ts = rest :=
  Prod.mk.inj (Except.ok.inj h)

/-! ### Single tokens -/

theorem expect_cons {t : Token} (h : t.kind = kind) : expect kind (t :: rest) = .ok (t.text, rest) := by
  show (if t.kind = kind then _ else _ : PatternReader String) (t :: rest) = _
  rw [if_pos h]
  rfl

theorem of_expect (hkind : kind ≠ .endOfText) {text : String}
    (h : expect kind ts = .ok (text, rest)) : ∃ t, ts = t :: rest ∧ t.kind = kind ∧ t.text = text := by
  change (if firstKind ts = kind then _ else _ : PatternReader String) ts = _ at h
  split_ifs at h with hfirst
  · cases ts with
    | nil => exact absurd hfirst.symm hkind
    | cons t more =>
      obtain ⟨rfl, rfl⟩ := of_pure h
      exact ⟨t, rfl, hfirst, rfl⟩
  · cases h

theorem eat_cons {t : Token} (h : t.kind = kind) : eat kind (t :: rest) = .ok (true, rest) := by
  show (if t.kind = kind then _ else _ : PatternReader Bool) (t :: rest) = _
  rw [if_pos h]
  rfl

theorem eat_of_ne (h : firstKind ts ≠ kind) : eat kind ts = .ok (false, ts) := by
  show (if firstKind ts = kind then _ else _ : PatternReader Bool) ts = _
  rw [if_neg h]
  rfl

theorem of_eat (hkind : kind ≠ .endOfText) {b : Bool} (h : eat kind ts = .ok (b, rest)) :
    (b = true ∧ ∃ t, ts = t :: rest ∧ t.kind = kind) ∨ (b = false ∧ rest = ts) := by
  change (if firstKind ts = kind then _ else _ : PatternReader Bool) ts = _ at h
  split_ifs at h with hfirst
  · cases ts with
    | nil => exact absurd hfirst.symm hkind
    | cons t more =>
      obtain ⟨rfl, rfl⟩ := of_pure h
      exact Or.inl ⟨rfl, t, rfl, hfirst⟩
  · obtain ⟨rfl, rfl⟩ := of_pure h
    exact Or.inr ⟨rfl, rfl⟩

/-- Reading on depends on whether a token of some kind comes next. -/
theorem of_ifEat (hkind : kind ≠ .endOfText) {x y : PatternReader α} {a : α}
    (h : (do if ← eat kind then x else y : PatternReader α) ts = .ok (a, rest)) :
    (∃ t more, ts = t :: more ∧ t.kind = kind ∧ x more = .ok (a, rest)) ∨
      y ts = .ok (a, rest) := by
  obtain ⟨b, mid, hfirst, hnext⟩ := bind_eq_ok.mp h
  rcases of_eat hkind hfirst with ⟨rfl, t, rfl, ht⟩ | ⟨rfl, rfl⟩
  · rw [if_pos rfl] at hnext
    exact Or.inl ⟨t, mid, rfl, ht, hnext⟩
  · rw [if_neg Bool.false_ne_true] at hnext
    exact Or.inr hnext

theorem ifEat_cons {t : Token} (h : t.kind = kind) (x y : PatternReader α) :
    (do if ← eat kind then x else y : PatternReader α) (t :: rest) = x rest := by
  rw [bind_of_ok (eat_cons h), if_pos rfl]

theorem ifEat_of_ne (h : firstKind ts ≠ kind) (x y : PatternReader α) :
    (do if ← eat kind then x else y : PatternReader α) ts = y ts := by
  rw [bind_of_ok (eat_of_ne h), if_neg Bool.false_ne_true]

theorem name_cons {t : Token} (h : t.kind = .identifier) : name (t :: rest) = .ok (t.text, rest) :=
  expect_cons h

theorem of_name {text : String} (h : name ts = .ok (text, rest)) :
    ∃ t, ts = t :: rest ∧ t.kind = .identifier ∧ t.text = text :=
  of_expect (by decide) h

/-! ### Readers of parts -/

/-- A reader reads a part of the grammar: what it takes derives from the part, and what derives from
the part is taken if a token of a suitable kind follows. -/
structure Reads {α : Type} (reader : PatternReader α) (part : List Token → α → Prop)
    (ends : TokenKind → Prop) : Prop where
  sound {ts rest : List Token} {a : α} (hread : Token.AllReadable ts)
    (h : reader ts = .ok (a, rest)) : ∃ taken, ts = taken ++ rest ∧ part taken a
  complete {taken : List Token} {a : α} (h : part taken a) (rest : List Token)
    (hends : ends (firstKind rest)) : reader (taken ++ rest) = .ok (a, rest)

/-- Any token may follow a part that shows its own end. -/
abbrev anyKind (_ : TokenKind) : Prop := True

theorem name?_reads : Reads name? OptionalName (· ≠ .identifier) where
  sound {ts rest given} _ h := by
    change (if firstKind ts = .identifier then _ else _ : PatternReader (Option String)) ts = _ at h
    split_ifs at h with hfirst
    · obtain ⟨text, mid, hname, h⟩ := bind_eq_ok.mp h
      obtain ⟨t, rfl, ht, rfl⟩ := of_name hname
      obtain ⟨rfl, rfl⟩ := of_pure h
      exact ⟨[t], rfl, .present ht⟩
    · obtain ⟨rfl, rfl⟩ := of_pure h
      exact ⟨[], rfl, .absent⟩
  complete {taken given} h rest hends := by
    cases h with
    | absent =>
      show (if firstKind rest = .identifier then _ else _ : PatternReader (Option String)) rest = _
      rw [if_neg hends]
      rfl
    | @present t ht =>
      show (if t.kind = .identifier then _ else _ : PatternReader (Option String)) (t :: rest) = _
      rw [if_pos ht, bind_of_ok (name_cons ht)]
      rfl

section Many

variable {starts : TokenKind → Bool} {reader : PatternReader α} {part : List Token → α → Prop}

theorem many_of_stop (h : starts (firstKind ts) = false) : many starts reader ts = .ok ([], ts) := by
  rw [many]
  show (if starts (firstKind ts) = true then _ else _) = _
  rw [if_neg (by rw [h]; decide)]
  rfl

theorem many_of_start (h : starts (firstKind ts)) {first : α} (hfirst : reader ts = .ok (first, mid))
    (hlt : mid.length < ts.length) :
    many starts reader ts = (many starts reader mid).map fun p => (first :: p.1, p.2) := by
  rw [many]
  show (if starts (firstKind ts) = true then _ else _) = _
  rw [if_pos h, hfirst]
  show (if _h : mid.length < ts.length then _ else _) = _
  rw [dif_pos hlt]
  cases many starts reader mid <;> rfl

theorem length_lt_cons_append (t : Token) (front rest : List Token) :
    rest.length < (t :: front ++ rest).length := by
  rw [List.length_append, List.length_cons]
  omega

/-- Many parts are read as long as a token follows that one of them starts with. -/
theorem many_reads (hreader : Reads reader part anyKind) (hstart : StartsWith part starts) :
    Reads (many starts reader) (Many part) fun kind => starts kind = false where
  sound {ts rest as} hread h := by
    induction ts using many.induct generalizing as with
    | case1 ts ih =>
      cases hkind : starts (firstKind ts) with
      | false =>
        rw [many_of_stop hkind] at h
        obtain ⟨rfl, rfl⟩ := of_pure h
        exact ⟨[], rfl, .nil⟩
      | true =>
        cases hfirst : reader ts with
        | error e =>
          rw [many] at h
          change (if starts (firstKind ts) = true then _ else _) = _ at h
          rw [if_pos hkind, hfirst] at h
          cases h
        | ok p =>
          obtain ⟨first, mid⟩ := p
          obtain ⟨taken, rfl, hpart⟩ := hreader.sound hread hfirst
          -- a part takes a token, so the rest is shorter
          obtain ⟨t, more, rfl, -⟩ := hstart _ _ hpart
          have hlt := length_lt_cons_append t more mid
          rw [many_of_start hkind hfirst hlt] at h
          cases hothers : many starts reader mid with
          | error e => rw [hothers] at h; cases h
          | ok q =>
            obtain ⟨others, last⟩ := q
            rw [hothers] at h
            obtain ⟨rfl, rfl⟩ := of_pure h
            obtain ⟨taken', rfl, hmany⟩ := ih mid hlt hread.of_append hothers
            exact ⟨_, (List.append_assoc _ _ _).symm, .cons hpart hmany⟩
  complete {taken as} h rest hends := by
    induction h with
    | nil => exact many_of_stop hends
    | @cons ts more first others hpart hmany ih =>
      obtain ⟨t, tail, rfl, ht⟩ := hstart _ _ hpart
      have hfirst := hreader.complete hpart (more ++ rest) trivial
      rw [List.append_assoc, many_of_start ht hfirst (length_lt_cons_append t tail _), ih]
      rfl

end Many

/-! ### Labels and types -/

theorem label_reads : Reads (do let _ ← expect .colon; name) Label anyKind where
  sound {ts rest label} _ h := by
    obtain ⟨_, mid, hfirst, hname⟩ := bind_eq_ok.mp h
    obtain ⟨colon, rfl, hcolon, -⟩ := of_expect (by decide) hfirst
    obtain ⟨t, rfl, ht, rfl⟩ := of_name hname
    exact ⟨[colon, t], rfl, .mk hcolon ht⟩
  complete {taken label} h rest _ := by
    obtain ⟨hcolon, ht⟩ := h
    rw [List.cons_append, bind_of_ok (expect_cons hcolon)]
    exact name_cons ht

theorem moreType_reads :
    Reads (do let _ ← expect .pipe; let _ ← eat .colon; name) MoreType anyKind where
  sound {ts rest label} _ h := by
    obtain ⟨_, mid, hfirst, hmore⟩ := bind_eq_ok.mp h
    obtain ⟨pipe, rfl, hpipe, -⟩ := of_expect (by decide) hfirst
    obtain ⟨_, mid', hsecond, hname⟩ := bind_eq_ok.mp hmore
    obtain ⟨t, rfl, ht, rfl⟩ := of_name hname
    rcases of_eat (by decide) hsecond with ⟨-, colon, rfl, hcolon⟩ | ⟨-, rfl⟩
    · exact ⟨[pipe, colon, t], rfl, .colon hpipe hcolon ht⟩
    · exact ⟨[pipe, t], rfl, .plain hpipe ht⟩
  complete {taken label} h rest _ := by
    cases h with
    | @plain pipe t hpipe ht =>
      have hcolon : firstKind (t :: rest) ≠ .colon := by
        rw [firstKind_cons, ht]
        decide
      show (expect .pipe >>= _) (pipe :: t :: rest) = _
      rw [bind_of_ok (expect_cons hpipe), bind_of_ok (eat_of_ne hcolon), name_cons ht]
    | @colon pipe colon t hpipe hcolon ht =>
      show (expect .pipe >>= _) (pipe :: colon :: t :: rest) = _
      rw [bind_of_ok (expect_cons hpipe), bind_of_ok (eat_cons hcolon), name_cons ht]

theorem moreType_starts : StartsWith MoreType (· = .pipe) := by
  intro ts a h
  cases h with
  | plain hpipe => exact ⟨_, _, rfl, decide_eq_true hpipe⟩
  | colon hpipe => exact ⟨_, _, rfl, decide_eq_true hpipe⟩

theorem types_reads : Reads types TypeNames (· ≠ .pipe) where
  sound {ts rest names} hread h := by
    obtain ⟨first, mid, hfirst, h⟩ := bind_eq_ok.mp h
    obtain ⟨t, rfl, ht, rfl⟩ := of_name hfirst
    obtain ⟨others, mid', hothers, h⟩ := bind_eq_ok.mp h
    obtain ⟨rfl, rfl⟩ := of_pure h
    obtain ⟨taken, rfl, hmany⟩ :=
      (many_reads moreType_reads moreType_starts).sound hread.of_cons hothers
    exact ⟨t :: taken, rfl, .mk ht hmany⟩
  complete {taken names} h rest hends := by
    obtain ⟨ht, hmany⟩ := h
    have hothers := (many_reads moreType_reads moreType_starts).complete hmany rest
      (decide_eq_false hends)
    rw [List.cons_append]
    unfold types
    rw [bind_of_ok (name_cons ht), bind_of_ok hothers]
    rfl

/-! ### Properties -/

theorem literal_reads : Reads literal Literal anyKind where
  sound {ts rest v} hread h := by
    cases ts with
    | nil => cases h
    | cons t more =>
      obtain ⟨kind, start, stop, text⟩ := t
      cases kind with
      | string =>
        obtain ⟨rfl, rfl⟩ := of_pure h
        exact ⟨[_], rfl, .string rfl⟩
      | integer =>
        unfold literal at h
        rw [bind_of_ok (a := text) rfl, bind_of_ok (a := .integer) rfl] at h
        dsimp only at h
        cases hn : Integer.int64? text.toList with
        | some n =>
          rw [hn] at h
          obtain ⟨rfl, rfl⟩ := of_pure h
          exact ⟨[_], rfl, .integer rfl hn⟩
        | none =>
          rw [hn] at h
          dsimp only at h
          split_ifs at h <;> cases h
      | float =>
        obtain ⟨hv, rfl⟩ := of_pure h
        -- the default of the reader is never taken: numbers among tokens can be read
        obtain ⟨x, hx⟩ := Option.isSome_iff_exists.mp (hread _ List.mem_cons_self rfl)
        change Value.float ((Binary64.ofText? text.toList).getD .nan) = v at hv
        rw [show Binary64.ofText? text.toList = some x from hx] at hv
        exact ⟨[_], rfl, hv ▸ .float rfl hx⟩
      | true =>
        obtain ⟨rfl, rfl⟩ := of_pure h
        exact ⟨[_], rfl, .true rfl⟩
      | false =>
        obtain ⟨rfl, rfl⟩ := of_pure h
        exact ⟨[_], rfl, .false rfl⟩
      | null =>
        obtain ⟨rfl, rfl⟩ := of_pure h
        exact ⟨[_], rfl, .null rfl⟩
      | _ => cases h
  complete {taken v} h rest _ := by
    cases h with
    | @integer t n ht hn =>
      obtain ⟨kind, start, stop, text⟩ := t
      obtain rfl : kind = .integer := ht
      unfold literal
      rw [bind_of_ok (a := text) rfl, bind_of_ok (a := .integer) rfl]
      dsimp only
      rw [show Integer.int64? text.toList = some n from hn]
      rfl
    | @float t x ht hx =>
      obtain ⟨kind, start, stop, text⟩ := t
      obtain rfl : kind = .float := ht
      show Except.ok (Value.float ((Binary64.ofText? text.toList).getD .nan), rest) = _
      rw [show Binary64.ofText? text.toList = some x from hx]
      rfl
    | @string t ht | @true t ht | @false t ht | @null t ht =>
      obtain ⟨kind, start, stop, text⟩ := t
      obtain rfl := ht
      rfl

theorem property_reads : Reads property Property anyKind where
  sound {ts rest c} hread h := by
    obtain ⟨_, mid, hfirst, hsecond⟩ := bind_eq_ok.mp h
    obtain ⟨key, rfl, hkey, rfl⟩ := of_name hfirst
    obtain ⟨_, mid', hsecond, hthird⟩ := bind_eq_ok.mp hsecond
    obtain ⟨colon, rfl, hcolon, -⟩ := of_expect (by decide) hsecond
    obtain ⟨v, last, hvalue, hend⟩ := bind_eq_ok.mp hthird
    obtain ⟨rfl, rfl⟩ := of_pure hend
    obtain ⟨taken, rfl, hliteral⟩ := literal_reads.sound hread.of_cons.of_cons hvalue
    exact ⟨key :: colon :: taken, rfl, .mk hkey hcolon hliteral⟩
  complete {taken c} h rest _ := by
    obtain ⟨hkey, hcolon, hliteral⟩ := h
    have hvalue := literal_reads.complete hliteral rest trivial
    unfold property
    rw [List.cons_append, List.cons_append, bind_of_ok (name_cons hkey),
      bind_of_ok (expect_cons hcolon), bind_of_ok hvalue]
    rfl

theorem moreProperty_reads :
    Reads (do let _ ← expect .comma; property) MoreProperty anyKind where
  sound {ts rest c} hread h := by
    obtain ⟨_, mid, hfirst, hmore⟩ := bind_eq_ok.mp h
    obtain ⟨comma, rfl, hcomma, -⟩ := of_expect (by decide) hfirst
    obtain ⟨taken, rfl, hproperty⟩ := property_reads.sound hread.of_cons hmore
    exact ⟨comma :: taken, rfl, .mk hcomma hproperty⟩
  complete {taken c} h rest _ := by
    obtain ⟨hcomma, hproperty⟩ := h
    rw [List.cons_append, bind_of_ok (expect_cons hcomma)]
    exact property_reads.complete hproperty rest trivial

theorem moreProperty_starts : StartsWith MoreProperty (· = .comma) := by
  intro ts a h
  obtain ⟨hcomma, -⟩ := h
  exact ⟨_, _, rfl, decide_eq_true hcomma⟩

theorem properties_reads : Reads properties Properties (· ≠ .openBrace) where
  sound {ts rest cs} hread h := by
    rcases of_ifEat (by decide) h with ⟨opening, mid, rfl, hopening, h₁⟩ | h₁
    · rcases of_ifEat (by decide) h₁ with ⟨closing, last, rfl, hclosing, h₂⟩ | h₂
      · obtain ⟨rfl, rfl⟩ := of_pure h₂
        exact ⟨[opening, closing], rfl, .empty hopening hclosing⟩
      · obtain ⟨first, mid', hthird, h₃⟩ := bind_eq_ok.mp h₂
        obtain ⟨taken, rfl, hproperty⟩ := property_reads.sound hread.of_cons hthird
        obtain ⟨others, last, hfourth, h₄⟩ := bind_eq_ok.mp h₃
        obtain ⟨taken', rfl, hmany⟩ :=
          (many_reads moreProperty_reads moreProperty_starts).sound hread.of_cons.of_append hfourth
        obtain ⟨_, last', hfifth, hend⟩ := bind_eq_ok.mp h₄
        obtain ⟨closing, rfl, hclosing, -⟩ := of_expect (by decide) hfifth
        obtain ⟨rfl, rfl⟩ := of_pure hend
        exact ⟨opening :: taken ++ taken' ++ [closing], by simp,
          .listed hopening hproperty hmany hclosing⟩
    · obtain ⟨rfl, rfl⟩ := of_pure h₁
      exact ⟨[], rfl, .absent⟩
  complete {taken cs} h rest hends := by
    unfold properties
    cases h with
    | absent =>
      rw [List.nil_append, ifEat_of_ne hends]
      rfl
    | @empty opening closing hopening hclosing =>
      rw [List.cons_append, ifEat_cons hopening, List.cons_append, ifEat_cons hclosing]
      rfl
    | @listed opening closing ts more c cs hopening hproperty hmany hclosing =>
      have hfirst := property_reads.complete hproperty (more ++ closing :: rest) trivial
      have hothers := (many_reads moreProperty_reads moreProperty_starts).complete hmany
        (closing :: rest) (by rw [firstKind_cons, hclosing]; decide)
      -- a property starts with a name, so the braces are not empty
      have hname : firstKind (ts ++ (more ++ closing :: rest)) ≠ .closeBrace := by
        obtain ⟨hkey, -⟩ := hproperty
        rw [List.cons_append, firstKind_cons, hkey]
        decide
      have hlist : opening :: ts ++ more ++ [closing] ++ rest
          = opening :: (ts ++ (more ++ closing :: rest)) := by simp
      rw [hlist, ifEat_cons hopening, ifEat_of_ne hname, bind_of_ok hfirst, bind_of_ok hothers,
        bind_of_ok (expect_cons hclosing)]
      rfl

/-! ### Nodes -/

theorem label_starts : StartsWith Label (· = .colon) := by
  intro ts a h
  obtain ⟨hcolon, -⟩ := h
  exact ⟨_, _, rfl, decide_eq_true hcolon⟩

theorem node_reads : Reads node PatternGrammar.Node anyKind where
  sound {ts rest n} hread h := by
    obtain ⟨_, mid, hfirst, h₁⟩ := bind_eq_ok.mp h
    obtain ⟨opening, rfl, hopening, -⟩ := of_expect (by decide) hfirst
    obtain ⟨given, mid₁, hsecond, h₂⟩ := bind_eq_ok.mp h₁
    obtain ⟨ns, rfl, hname⟩ := name?_reads.sound hread.of_cons hsecond
    obtain ⟨labels, mid₂, hthird, h₃⟩ := bind_eq_ok.mp h₂
    obtain ⟨ls, rfl, hlabels⟩ :=
      (many_reads label_reads label_starts).sound hread.of_cons.of_append hthird
    obtain ⟨constraints, mid₃, hfourth, h₄⟩ := bind_eq_ok.mp h₃
    obtain ⟨ps, rfl, hproperties⟩ :=
      properties_reads.sound hread.of_cons.of_append.of_append hfourth
    obtain ⟨_, mid₄, hfifth, hend⟩ := bind_eq_ok.mp h₄
    obtain ⟨closing, rfl, hclosing, -⟩ := of_expect (by decide) hfifth
    obtain ⟨rfl, rfl⟩ := of_pure hend
    exact ⟨opening :: ns ++ ls ++ ps ++ [closing], by simp,
      .mk hopening hname hlabels hproperties hclosing⟩
  complete {taken n} h rest _ := by
    obtain @⟨opening, closing, ns, ls, ps, given, labels, constraints, hopening, hname, hlabels,
      hproperties, hclosing⟩ := h
    -- behind each part stands a part that comes later, or the closing parenthesis
    have hproperties' := properties_reads.complete hproperties (closing :: rest) (by
      rw [firstKind_cons, hclosing]
      decide)
    have hlabels' := (many_reads label_reads label_starts).complete hlabels
      (ps ++ closing :: rest) (by
        rcases hproperties.firstKind_append (closing :: rest) with h | h
        · rw [h]; decide
        · rw [h, firstKind_cons, hclosing]; decide)
    have hname' := name?_reads.complete hname (ls ++ (ps ++ closing :: rest)) (by
      rcases hlabels.firstKind_append label_starts (ps ++ closing :: rest) with h | h
      · rw [of_decide_eq_true h]; decide
      · rcases hproperties.firstKind_append (closing :: rest) with h' | h'
        · rw [h, h']; decide
        · rw [h, h', firstKind_cons, hclosing]; decide)
    have hlist : opening :: ns ++ ls ++ ps ++ [closing] ++ rest
        = opening :: (ns ++ (ls ++ (ps ++ closing :: rest))) := by simp
    unfold node
    rw [hlist, bind_of_ok (expect_cons hopening), bind_of_ok hname', bind_of_ok hlabels',
      bind_of_ok hproperties', bind_of_ok (expect_cons hclosing)]
    rfl

end PatternReader

end PropertyGraph
