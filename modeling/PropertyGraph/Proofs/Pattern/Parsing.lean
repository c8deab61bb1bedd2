import PropertyGraph.Proofs.Pattern.Reading

/-!
# Reading patterns

The readers of hops and of paths read exactly these parts of the grammar (`relationship_reads`,
`path_eq_ok_iff`).

`parse_iff_derives` says so for whole texts: a text is read as a pattern if and only if its tokens
but for the mark of the end derive from the grammar, and the pattern is what they denote.
-/

namespace PropertyGraph

namespace PatternReader

open PatternGrammar

variable {α β : Type} {ts rest : List Token}

/-! ### Numbers of hops -/

theorem count?_reads : Reads count? OptionalCount (· ≠ .integer) where
  sound {ts rest count} _ h := by
    change (if firstKind ts = .integer then _ else _ : PatternReader (Option Nat)) ts = _ at h
    split_ifs at h with hfirst
    · cases ts with
      | nil => cases hfirst
      | cons t more =>
        rw [bind_of_ok (show nextText (t :: more) = .ok (t.text, t :: more) from rfl)] at h
        cases hn : Integer.natural? t.text.toList with
        | some n =>
          rw [hn] at h
          obtain ⟨rfl, rfl⟩ := of_pure h
          exact ⟨[t], rfl, .present hfirst hn⟩
        | none =>
          rw [hn] at h
          cases h
    · obtain ⟨rfl, rfl⟩ := of_pure h
      exact ⟨[], rfl, .absent⟩
  complete {taken count} h rest hends := by
    cases h with
    | absent =>
      show (if firstKind rest = .integer then _ else _ : PatternReader (Option Nat)) rest = _
      rw [if_neg hends]
      rfl
    | @present t n ht hn =>
      show (if t.kind = .integer then _ else _ : PatternReader (Option Nat)) (t :: rest) = _
      rw [if_pos ht, bind_of_ok (show nextText (t :: rest) = .ok (t.text, t :: rest) from rfl), hn]
      rfl

theorem hopBounds_reads : Reads hopBounds Bounds fun kind => kind ≠ .integer ∧ kind ≠ .dotDot where
  sound {ts rest bounds} hread h := by
    obtain ⟨low, mid, hfirst, h₁⟩ := bind_eq_ok.mp h
    obtain ⟨ls, rfl, hlow⟩ := count?_reads.sound hread hfirst
    rcases of_ifEat (by decide) h₁ with ⟨dots, mid₁, rfl, hdots, h₂⟩ | h₂
    · obtain ⟨high, mid₂, hthird, hend⟩ := bind_eq_ok.mp h₂
      obtain ⟨hs, rfl, hhigh⟩ := count?_reads.sound hread.of_append.of_cons hthird
      suffices hbounds : bounds = (low.getD 1, high) ∧ rest = mid₂ ∧
          ∀ m n, low = some m → high = some n → m ≤ n by
        obtain ⟨rfl, rfl, hle⟩ := hbounds
        exact ⟨ls ++ dots :: hs, by simp, .range hlow hdots hhigh hle⟩
      -- the order of the bounds is checked only where both are written
      cases low with
      | none =>
        obtain ⟨rfl, rfl⟩ := of_pure hend
        exact ⟨rfl, rfl, fun m n hm => by cases hm⟩
      | some m =>
        cases high with
        | none =>
          obtain ⟨rfl, rfl⟩ := of_pure hend
          exact ⟨rfl, rfl, fun m n _ hn => by cases hn⟩
        | some n =>
          dsimp only at hend
          split_ifs at hend with hlt
          · cases hend
          · obtain ⟨rfl, rfl⟩ := of_pure hend
            refine ⟨rfl, rfl, fun m' n' hm hn => ?_⟩
            obtain rfl := Option.some.inj hm
            obtain rfl := Option.some.inj hn
            exact Nat.le_of_not_lt hlt
    · obtain ⟨rfl, rfl⟩ := of_pure h₂
      cases hlow with
      | absent => exact ⟨[], rfl, .unbounded⟩
      | @present t n ht hn => exact ⟨[t], rfl, .exactly ht hn⟩
  complete {taken bounds} h rest hends := by
    unfold hopBounds
    cases h with
    | unbounded =>
      have hlow := count?_reads.complete .absent rest hends.1
      rw [bind_of_ok hlow, ifEat_of_ne hends.2]
      rfl
    | @exactly t n ht hn =>
      have hlow := count?_reads.complete (.present ht hn) rest hends.1
      rw [bind_of_ok hlow, ifEat_of_ne hends.2]
      rfl
    | @range dots ls hs low high hlow hdots hhigh hle =>
      have hlow' := count?_reads.complete hlow (dots :: (hs ++ rest)) (by
        rw [firstKind_cons, hdots]
        decide)
      have hhigh' := count?_reads.complete hhigh rest hends.1
      have hlist : ls ++ dots :: hs ++ rest = ls ++ dots :: (hs ++ rest) := by simp
      rw [hlist, bind_of_ok hlow', ifEat_cons hdots, bind_of_ok hhigh']
      cases low with
      | none => rfl
      | some m =>
        cases high with
        | none => rfl
        | some n =>
          dsimp only
          rw [if_neg (Nat.not_lt.mpr (hle m n rfl rfl))]
          rfl

/-! ### Hops -/

/-- The labels of a hop, if a colon opens them. -/
def types? : PatternReader (List String) := do
  if ← eat .colon then types else return []

theorem types?_reads : Reads types? Types fun kind => kind ≠ .colon ∧ kind ≠ .pipe where
  sound {ts rest names} hread h := by
    rcases of_ifEat (by decide) h with ⟨colon, mid, rfl, hcolon, h₁⟩ | h₁
    · obtain ⟨taken, rfl, hnames⟩ := types_reads.sound hread.of_cons h₁
      exact ⟨colon :: taken, rfl, .present hcolon hnames⟩
    · obtain ⟨rfl, rfl⟩ := of_pure h₁
      exact ⟨[], rfl, .absent⟩
  complete {taken names} h rest hends := by
    unfold types?
    cases h with
    | absent =>
      rw [List.nil_append, ifEat_of_ne hends.1]
      rfl
    | @present colon ts names hcolon hnames =>
      rw [List.cons_append, ifEat_cons hcolon]
      exact types_reads.complete hnames rest hends.2

/-- The bounds on a number of hops, if a star opens them. -/
def hops? : PatternReader (Option Nat × Option Nat) := do
  if ← eat .star then
    let (low, high) ← hopBounds
    return (some low, high)
  else return (none, none)

theorem hops?_reads :
    Reads hops? Hops fun kind => kind ≠ .star ∧ kind ≠ .integer ∧ kind ≠ .dotDot where
  sound {ts rest bounds} hread h := by
    rcases of_ifEat (by decide) h with ⟨star, mid, rfl, hstar, h₁⟩ | h₁
    · obtain ⟨⟨low, high⟩, mid', hsecond, hend⟩ := bind_eq_ok.mp h₁
      obtain ⟨rfl, rfl⟩ := of_pure hend
      obtain ⟨taken, rfl, hbounds⟩ := hopBounds_reads.sound hread.of_cons hsecond
      exact ⟨star :: taken, rfl, .present hstar hbounds⟩
    · obtain ⟨rfl, rfl⟩ := of_pure h₁
      exact ⟨[], rfl, .absent⟩
  complete {taken bounds} h rest hends := by
    unfold hops?
    cases h with
    | absent =>
      rw [List.nil_append, ifEat_of_ne hends.1]
      rfl
    | @present star ts low high hstar hbounds =>
      have hbounds' := hopBounds_reads.complete hbounds rest hends.2
      rw [List.cons_append, ifEat_cons hstar, bind_of_ok hbounds']
      rfl

theorem ite_bind {b : Bool} (x y : PatternReader α) (f : α → PatternReader β) :
    (if b then x else y) >>= f = if b then x >>= f else y >>= f := by
  cases b <;> rfl

/-- The brackets with their optional parts as readers of their own. -/
theorem brackets_eq : brackets = do
    if ← eat .openBracket then
      let given ← name?
      let types ← types?
      let (low, high) ← hops?
      let constraints ← properties
      let _ ← expect .closeBracket
      return { name := given, types, constraints, minHops := low, maxHops := high }
    else return {} := by
  unfold brackets types? hops?
  simp only [bind_assoc, pure_bind, ite_bind]

theorem brackets_reads : Reads brackets Brackets (· ≠ .openBracket) where
  sound {ts rest p} hread h := by
    rw [brackets_eq] at h
    rcases of_ifEat (by decide) h with ⟨opening, mid, rfl, hopening, h₁⟩ | h₁
    · obtain ⟨given, mid₁, hsecond, h₂⟩ := bind_eq_ok.mp h₁
      obtain ⟨ns, rfl, hname⟩ := name?_reads.sound hread.of_cons hsecond
      obtain ⟨types, mid₂, hthird, h₃⟩ := bind_eq_ok.mp h₂
      obtain ⟨ts, rfl, htypes⟩ := types?_reads.sound hread.of_cons.of_append hthird
      obtain ⟨⟨low, high⟩, mid₃, hfourth, h₄⟩ := bind_eq_ok.mp h₃
      obtain ⟨hs, rfl, hhops⟩ :=
        hops?_reads.sound hread.of_cons.of_append.of_append hfourth
      obtain ⟨constraints, mid₄, hfifth, h₅⟩ := bind_eq_ok.mp h₄
      obtain ⟨ps, rfl, hproperties⟩ :=
        properties_reads.sound hread.of_cons.of_append.of_append.of_append hfifth
      obtain ⟨_, mid₅, hsixth, hend⟩ := bind_eq_ok.mp h₅
      obtain ⟨closing, rfl, hclosing, -⟩ := of_expect (by decide) hsixth
      obtain ⟨rfl, rfl⟩ := of_pure hend
      exact ⟨opening :: ns ++ ts ++ hs ++ ps ++ [closing], by simp,
        .present hopening hname htypes hhops hproperties hclosing⟩
    · obtain ⟨rfl, rfl⟩ := of_pure h₁
      exact ⟨[], rfl, .absent⟩
  complete {taken p} h rest hends := by
    rw [brackets_eq]
    cases h with
    | absent =>
      rw [List.nil_append, ifEat_of_ne hends]
      rfl
    | @present opening closing ns ts hs ps given types low high constraints hopening hname htypes
        hhops hproperties hclosing =>
      -- what may stand behind each part: the parts that come later, or the closing bracket
      have hlast : firstKind (closing :: rest) = .closeBracket := hclosing
      have hbehindHops : firstKind (ps ++ closing :: rest) = .openBrace ∨
          firstKind (ps ++ closing :: rest) = .closeBracket :=
        hlast ▸ hproperties.firstKind_append (closing :: rest)
      have hbehindTypes := hhops.firstKind_append (ps ++ closing :: rest)
      have hbehindName := htypes.firstKind_append (hs ++ (ps ++ closing :: rest))
      have hproperties' := properties_reads.complete hproperties (closing :: rest) (by
        rw [hlast]
        decide)
      have hhops' := hops?_reads.complete hhops (ps ++ closing :: rest) (by
        rcases hbehindHops with h | h <;> rw [h] <;> decide)
      have htypes' := types?_reads.complete htypes (hs ++ (ps ++ closing :: rest)) (by
        rcases hbehindTypes with h | h
        · rw [h]; decide
        · rcases hbehindHops with h' | h' <;> rw [h, h'] <;> decide)
      have hname' := name?_reads.complete hname (ts ++ (hs ++ (ps ++ closing :: rest))) (by
        rcases hbehindName with h | h
        · rw [h]; decide
        · rcases hbehindTypes with h' | h'
          · rw [h, h']; decide
          · rcases hbehindHops with h'' | h'' <;> rw [h, h', h''] <;> decide)
      have hlist : opening :: ns ++ ts ++ hs ++ ps ++ [closing] ++ rest
          = opening :: (ns ++ (ts ++ (hs ++ (ps ++ closing :: rest)))) := by simp
      rw [hlist, ifEat_cons hopening, bind_of_ok hname', bind_of_ok htypes', bind_of_ok hhops']
      show (properties >>= _) (ps ++ closing :: rest) = _
      rw [bind_of_ok hproperties', bind_of_ok (expect_cons hclosing)]
      rfl

/-- The direction of a hop that starts with a left arrow or with a dash, and the token that ends
the hop. -/
inductive EndsIn : Bool → List Token → Direction → Prop where
  | outgoing {t : Token} : t.kind = .arrow → EndsIn false [t] .outgoing
  | incoming {t : Token} : t.kind = .dash → EndsIn true [t] .incoming
  | both {t : Token} : t.kind = .dash → EndsIn false [t] .both

theorem direction_reads (incoming : Bool) :
    Reads (direction incoming) (EndsIn incoming) anyKind where
  sound {ts rest d} _ h := by
    cases incoming with
    | true =>
      change (if firstKind ts = .arrow then _ else _ : PatternReader Direction) ts = _ at h
      split_ifs at h
      · cases h
      · obtain ⟨_, mid, hfirst, hend⟩ := bind_eq_ok.mp h
        obtain ⟨t, rfl, ht, -⟩ := of_expect (by decide) hfirst
        obtain ⟨rfl, rfl⟩ := of_pure hend
        exact ⟨[t], rfl, .incoming ht⟩
    | false =>
      rcases of_ifEat (by decide) h with ⟨t, mid, rfl, ht, h₁⟩ | h₁
      · obtain ⟨rfl, rfl⟩ := of_pure h₁
        exact ⟨[t], rfl, .outgoing ht⟩
      · obtain ⟨_, mid, hsecond, hend⟩ := bind_eq_ok.mp h₁
        obtain ⟨t, rfl, ht, -⟩ := of_expect (by decide) hsecond
        obtain ⟨rfl, rfl⟩ := of_pure hend
        exact ⟨[t], rfl, .both ht⟩
  complete {taken d} h rest _ := by
    cases h with
    | @outgoing t ht =>
      exact ifEat_cons ht _ _
    | @incoming t ht =>
      have hne : t.kind ≠ .arrow := by rw [ht]; decide
      show (if t.kind = .arrow then _ else _ : PatternReader Direction) (t :: rest) = _
      rw [if_neg hne, bind_of_ok (expect_cons ht)]
      rfl
    | @both t ht =>
      have hne : firstKind (t :: rest) ≠ .arrow := by rw [firstKind_cons, ht]; decide
      refine (ifEat_of_ne hne _ _).trans ?_
      rw [bind_of_ok (expect_cons ht)]
      rfl

/-- A hop by the token that it starts with: the brackets and the direction behind it. -/
theorem relationship_cons {t : Token} (incoming : Bool)
    (h : t.kind = if incoming then .leftArrow else .dash) :
    relationship (t :: ts) = (do
      let inner ← brackets
      return { inner with direction := ← direction incoming }) ts := by
  unfold relationship
  cases incoming with
  | true =>
    have h : t.kind = .leftArrow := h
    rw [bind_of_ok (eat_cons h)]
    rfl
  | false =>
    have h : t.kind = .dash := h
    have hne : firstKind (t :: ts) ≠ .leftArrow := by rw [firstKind_cons, h]; decide
    rw [bind_of_ok (eat_of_ne hne)]
    show (expect .dash >>= _) (t :: ts) = _
    rw [bind_of_ok (expect_cons h)]

theorem of_relationship {p : RelationshipPattern} (h : relationship ts = .ok (p, rest)) :
    ∃ (t : Token) (mid : List Token) (incoming : Bool),
      ts = t :: mid ∧ t.kind = if incoming then .leftArrow else .dash := by
  obtain ⟨incoming, mid, hfirst, h₁⟩ := bind_eq_ok.mp h
  rcases of_eat (by decide) hfirst with ⟨rfl, t, rfl, ht⟩ | ⟨rfl, rfl⟩
  · exact ⟨t, mid, true, rfl, ht⟩
  · change (expect .dash >>= _) mid = _ at h₁
    obtain ⟨_, mid', hsecond, -⟩ := bind_eq_ok.mp h₁
    obtain ⟨t, rfl, ht, -⟩ := of_expect (by decide) hsecond
    exact ⟨t, mid', false, rfl, ht⟩

theorem relationship_reads : Reads relationship Relationship anyKind where
  sound {ts rest p} hread h := by
    obtain ⟨t, mid, incoming, rfl, ht⟩ := of_relationship h
    rw [relationship_cons incoming ht] at h
    obtain ⟨inner, mid₁, hfirst, h₁⟩ := bind_eq_ok.mp h
    obtain ⟨bs, rfl, hbrackets⟩ := brackets_reads.sound hread.of_cons hfirst
    obtain ⟨d, mid₂, hsecond, hend⟩ := bind_eq_ok.mp h₁
    obtain ⟨es, rfl, hdirection⟩ :=
      (direction_reads incoming).sound hread.of_cons.of_append hsecond
    obtain ⟨rfl, rfl⟩ := of_pure hend
    refine ⟨t :: bs ++ es, by simp, ?_⟩
    cases hdirection with
    | outgoing he => exact .outgoing ht hbrackets he
    | incoming he => exact .incoming ht hbrackets he
    | both he => exact .both ht hbrackets he
  complete {taken p} h rest _ := by
    -- each way to write a hop is a first token, brackets and a direction
    obtain ⟨t, bs, es, inner, d, incoming, rfl, rfl, ht, hbrackets, hdirection⟩ :
        ∃ (t : Token) (bs es : List Token) (inner : RelationshipPattern) (d : Direction)
          (incoming : Bool), taken = t :: bs ++ es ∧ p = { inner with direction := d } ∧
            t.kind = (if incoming then .leftArrow else .dash) ∧ Brackets bs inner ∧
            EndsIn incoming es d := by
      cases h with
      | outgoing ht hbrackets he =>
        exact ⟨_, _, _, _, _, false, rfl, rfl, ht, hbrackets, .outgoing he⟩
      | incoming ht hbrackets he =>
        exact ⟨_, _, _, _, _, true, rfl, rfl, ht, hbrackets, .incoming he⟩
      | both ht hbrackets he =>
        exact ⟨_, _, _, _, _, false, rfl, rfl, ht, hbrackets, .both he⟩
    have hbrackets' := brackets_reads.complete hbrackets (es ++ rest) (by
      cases hdirection with
      | outgoing he | incoming he | both he =>
        rw [List.cons_append, firstKind_cons, he]
        decide)
    have hdirection' := (direction_reads incoming).complete hdirection rest trivial
    have hlist : t :: bs ++ es ++ rest = t :: (bs ++ (es ++ rest)) := by simp
    rw [hlist, relationship_cons incoming ht, bind_of_ok hbrackets', bind_of_ok hdirection']
    rfl

/-! ### Paths -/

theorem segment_reads : Reads segment PatternGrammar.Segment anyKind where
  sound {ts rest s} hread h := by
    obtain ⟨hop, mid, hfirst, h₁⟩ := bind_eq_ok.mp h
    obtain ⟨rs, rfl, hhop⟩ := relationship_reads.sound hread hfirst
    obtain ⟨n, mid', hsecond, hend⟩ := bind_eq_ok.mp h₁
    obtain ⟨ns, rfl, hnode⟩ := node_reads.sound hread.of_append hsecond
    obtain ⟨rfl, rfl⟩ := of_pure hend
    exact ⟨rs ++ ns, by simp, .mk hhop hnode⟩
  complete {taken s} h rest _ := by
    obtain @⟨rs, ns, hop, n, hhop, hnode⟩ := h
    have hhop' := relationship_reads.complete hhop (ns ++ rest) trivial
    have hnode' := node_reads.complete hnode rest trivial
    unfold segment
    rw [List.append_assoc, bind_of_ok hhop', bind_of_ok hnode']
    rfl

/-- The kinds of tokens that a hop starts with. -/
abbrev startsHop (kind : TokenKind) : Bool := kind = .dash || kind = .leftArrow

theorem segment_starts : StartsWith PatternGrammar.Segment startsHop := by
  intro ts s h
  obtain @⟨rs, ns, hop, n, hhop, -⟩ := h
  cases hhop with
  | outgoing ht | incoming ht | both ht =>
    exact ⟨_, _, rfl, by rw [startsHop, ht]; decide⟩

/-- A path and all that stands behind it: nothing, or a token that marks the end. -/
theorem path_eq_ok_iff (hread : Token.AllReadable ts) {p : PathPattern} :
    path ts = .ok (p, rest) ↔
      firstKind rest = .endOfText ∧ ∃ taken, ts = taken ++ rest ∧ PatternGrammar.Path taken p := by
  constructor
  · intro h
    obtain ⟨start, mid, hfirst, h₁⟩ := bind_eq_ok.mp h
    obtain ⟨ns, rfl, hstart⟩ := node_reads.sound hread hfirst
    obtain ⟨segments, mid', hsecond, h₂⟩ := bind_eq_ok.mp h₁
    obtain ⟨ss, rfl, hsegments⟩ :=
      (many_reads segment_reads segment_starts).sound hread.of_append hsecond
    change (if firstKind mid' = .endOfText then _ else _ : PatternReader PathPattern) mid' = _ at h₂
    split_ifs at h₂ with hend
    · obtain ⟨rfl, rfl⟩ := of_pure h₂
      exact ⟨hend, ns ++ ss, by simp, .mk hstart hsegments⟩
    · cases h₂
  · rintro ⟨hend, taken, rfl, hpath⟩
    obtain @⟨ns, ss, start, segments, hstart, hsegments⟩ := hpath
    have hstart' := node_reads.complete hstart (ss ++ rest) trivial
    have hsegments' := (many_reads segment_reads segment_starts).complete hsegments rest (by
      rw [hend]
      decide)
    unfold path
    rw [List.append_assoc, bind_of_ok hstart', bind_of_ok hsegments']
    show (if firstKind rest = .endOfText then _ else _ : PatternReader PathPattern) rest = _
    rw [if_pos hend]
    rfl

end PatternReader

/-! ### Texts -/

namespace PatternGrammar

/-- The last token closes a node. -/
def EndsClosed (ts : List Token) : Prop := ∃ front t, ts = front ++ [t] ∧ t.kind = .closeParen

theorem EndsClosed.append {ts : List Token} (h : EndsClosed ts) (front : List Token) :
    EndsClosed (front ++ ts) := by
  obtain ⟨between, t, rfl, ht⟩ := h
  exact ⟨front ++ between, t, by simp, ht⟩

theorem Node.endsClosed {ts : List Token} {n : NodePattern} (h : PatternGrammar.Node ts n) :
    EndsClosed ts := by
  obtain ⟨-, -, -, -, hclosing⟩ := h
  exact ⟨_, _, rfl, hclosing⟩

theorem Path.endsClosed {ts : List Token} {p : PathPattern} (h : PatternGrammar.Path ts p) :
    EndsClosed ts := by
  obtain @⟨ns, rest, start, segments, hstart, hsegments⟩ := h
  induction hsegments generalizing ns start with
  | nil =>
    rw [List.append_nil]
    exact hstart.endsClosed
  | cons hsegment _ ih =>
    -- the node of the first segment may take the place of the start
    obtain @⟨rs, ns', hop, n, -, hnode⟩ := hsegment
    rw [List.append_assoc]
    exact ((ih hnode).append rs).append ns

end PatternGrammar

/-- Behind a path that ends where the end is marked, only the mark of the end is left. -/
theorem Token.EndsWith.eq_of_append {body taken rest : List Token} {stop : Token}
    (h : EndsWith body stop) (heq : body ++ [stop] = taken ++ rest)
    (hclosed : PatternGrammar.EndsClosed taken) (hend : firstKind rest = .endOfText) :
    rest = [stop] ∧ taken = body := by
  obtain ⟨front, t, rfl, ht⟩ := hclosed
  rcases List.eq_nil_or_concat rest with rfl | ⟨more, last, rfl⟩
  · -- then the mark of the end would be a closing parenthesis
    rw [List.append_nil] at heq
    obtain ⟨-, hstop⟩ := List.append_inj' heq rfl
    obtain rfl := List.singleton_inj.mp hstop
    rw [h.stop_kind] at ht
    cases ht
  · rw [List.concat_eq_append, ← List.append_assoc] at heq
    obtain ⟨hbody, hstop⟩ := List.append_inj' heq rfl
    obtain rfl := List.singleton_inj.mp hstop
    cases more with
    | nil => exact ⟨rfl, by rw [hbody, List.append_nil]⟩
    | cons u more =>
      -- then the end would be marked before the last token
      have hu : u ∈ body := by rw [hbody]; simp
      exact absurd hend (h.not_end u hu)

/-- **The patterns that are read are those of the grammar.**  The tokens of a text are some tokens
and a mark of the end behind them.  Reading them as a path succeeds if and only if the tokens in
front of the mark derive from the grammar; then the pattern is the one that they denote, and nothing
but the mark of the end is left.  Reading the text as a pattern gives that pattern. -/
theorem parse_iff_derives {text : String} {tokens : List Token}
    (h : Token.ofText text = .ok tokens) :
    ∃ body stop, tokens = body ++ [stop] ∧ stop.kind = .endOfText ∧
      (∀ p rest, PatternReader.path tokens = .ok (p, rest) ↔
        rest = [stop] ∧ PatternGrammar.Path body p) ∧
      (∀ p, PathPattern.ofText text = .ok p ↔ PatternGrammar.Path body p) := by
  obtain ⟨body, stop, rfl, hends⟩ := Token.ofText_spec h
  have hpath : ∀ p rest, PatternReader.path (body ++ [stop]) = .ok (p, rest) ↔
      rest = [stop] ∧ PatternGrammar.Path body p := by
    intro p rest
    rw [PatternReader.path_eq_ok_iff hends.readable]
    constructor
    · rintro ⟨hend, taken, heq, hpath⟩
      obtain ⟨hrest, rfl⟩ := hends.eq_of_append heq hpath.endsClosed hend
      exact ⟨hrest, hpath⟩
    · rintro ⟨rfl, hpath⟩
      exact ⟨hends.stop_kind, body, rfl, hpath⟩
  refine ⟨body, stop, rfl, hends.stop_kind, hpath, fun p => ?_⟩
  have htext : PathPattern.ofText text = (PatternReader.path (body ++ [stop])).map Prod.fst := by
    unfold PathPattern.ofText PathPattern.ofTokens
    rw [h]
    show (PatternReader.path (body ++ [stop]) >>= _) = _
    cases PatternReader.path (body ++ [stop]) <;> rfl
  rw [htext]
  cases hread : PatternReader.path (body ++ [stop]) with
  | error e =>
    refine ⟨fun herror => (nomatch herror), fun hp => ?_⟩
    rw [(hpath p [stop]).mpr ⟨rfl, hp⟩] at hread
    cases hread
  | ok q =>
    obtain ⟨q, rest⟩ := q
    obtain ⟨rfl, hq⟩ := (hpath q rest).mp hread
    refine ⟨fun h => Except.ok.inj h ▸ hq, fun hp => ?_⟩
    have hsame := hread.symm.trans ((hpath p [stop]).mpr ⟨rfl, hp⟩)
    exact congrArg (fun r => r.map Prod.fst) hsame

/-- The tokens of `(a)<-[:R*..2]-()` in front of the mark of the end. -/
def incomingHopTokens : List Token :=
  [⟨.openParen, 0, 1, "("⟩, ⟨.identifier, 1, 2, "a"⟩, ⟨.closeParen, 2, 3, ")"⟩,
    ⟨.leftArrow, 3, 5, "<-"⟩, ⟨.openBracket, 5, 6, "["⟩, ⟨.colon, 6, 7, ":"⟩,
    ⟨.identifier, 7, 8, "R"⟩, ⟨.star, 8, 9, "*"⟩, ⟨.dotDot, 9, 11, ".."⟩, ⟨.integer, 11, 12, "2"⟩,
    ⟨.closeBracket, 12, 13, "]"⟩, ⟨.dash, 13, 14, "-"⟩, ⟨.openParen, 14, 15, "("⟩,
    ⟨.closeParen, 15, 16, ")"⟩]

/-- An incoming hop of at most two edges, from a named node to any node. -/
def incomingHop : PathPattern where
  start := { name := some "a" }
  segments :=
    [({ types := ["R"], direction := .incoming, minHops := some 1, maxHops := some 2 }, {})]

theorem parse_incoming_hop :
    Token.ofText "(a)<-[:R*..2]-()" = .ok (incomingHopTokens ++ [⟨.endOfText, 16, 16, ""⟩]) ∧
      PatternGrammar.Path incomingHopTokens incomingHop ∧
      PathPattern.ofText "(a)<-[:R*..2]-()" = .ok incomingHop := by
  have htokens : Token.ofText "(a)<-[:R*..2]-()"
      = .ok (incomingHopTokens ++ [⟨.endOfText, 16, 16, ""⟩]) := by
    have hrun : (Token.ofText "(a)<-[:R*..2]-()").toOption
        = some (incomingHopTokens ++ [⟨.endOfText, 16, 16, ""⟩]) := by decide +kernel
    cases h : Token.ofText "(a)<-[:R*..2]-()" with
    | error e => rw [h] at hrun; cases hrun
    | ok tokens => rw [h] at hrun; exact congrArg Except.ok (Option.some.inj hrun)
  have hstart : PatternGrammar.Node (incomingHopTokens.take 3) { name := some "a" } :=
    .mk rfl (.present rfl) .nil .absent rfl
  have hnumber : Integer.natural? ['2'] = some 2 := by decide
  have hbounds : PatternGrammar.Bounds ((incomingHopTokens.drop 8).take 2) (1, some 2) :=
    .range .absent rfl (.present rfl hnumber) (fun m n hm => by cases hm)
  have hbrackets : PatternGrammar.Brackets ((incomingHopTokens.drop 4).take 7)
      { types := ["R"], minHops := some 1, maxHops := some 2 } :=
    .present rfl .absent (.present rfl (.mk rfl .nil)) (.present rfl hbounds) .absent rfl
  have hend : PatternGrammar.Node (incomingHopTokens.drop 12) {} :=
    .mk rfl .absent .nil .absent rfl
  have hhop : PatternGrammar.Relationship ((incomingHopTokens.drop 3).take 9)
      { types := ["R"], direction := .incoming, minHops := some 1, maxHops := some 2 } :=
    .incoming rfl hbrackets rfl
  have hsegment := PatternGrammar.Segment.mk hhop hend
  have hpath : PatternGrammar.Path incomingHopTokens incomingHop :=
    PatternGrammar.Path.mk hstart (PatternGrammar.Many.cons hsegment .nil)
  obtain ⟨body, stop, heq, -, -, hread⟩ := parse_iff_derives htokens
  obtain ⟨rfl, -⟩ := List.append_inj' heq rfl
  exact ⟨htokens, hpath, (hread _).mpr hpath⟩

end PropertyGraph
