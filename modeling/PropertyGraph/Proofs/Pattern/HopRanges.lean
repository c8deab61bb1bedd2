import PropertyGraph.Proofs.Pattern.Parsing

/-!
# Ranges of hops

A hop of variable length has a least number of hops, and it may have a largest one.  Where a text
gives both, reading it refuses the pair that is out of order; where it gives only the largest, the
least is taken to be one, and nothing is refused.

`hop_ranges` says what is left.  The bounds of every pattern that is read are in order or are one
and zero, and a pattern has a hop with bounds out of order if and only if its text has `*..0` in it,
as tokens.
-/

namespace PropertyGraph

/-! ### Empty ranges -/

/-- The largest number is given and is below the least one. -/
def IsEmptyRange (bounds : Option Nat × Option Nat) : Prop :=
  ∃ low high, bounds = (some low, some high) ∧ high < low

/-- No number of hops is within the bounds. -/
def RelationshipPattern.HasEmptyRange (p : RelationshipPattern) : Prop :=
  IsEmptyRange (p.minHops, p.maxHops)

/-- Where there are bounds, there is a least number, and a largest one that is not below it, unless
the two are one and zero. -/
def RelationshipPattern.SettlesHops (p : RelationshipPattern) : Prop :=
  p.isVariableLength → ∃ low, p.minHops = some low ∧
    ∀ high, p.maxHops = some high → low ≤ high ∨ low = 1 ∧ high = 0

/-- Some tokens in a row are a star, dots and a number that is zero. -/
def WritesNoHops (ts : List Token) : Prop :=
  ∃ star dots zero : Token, [star, dots, zero] <:+: ts ∧ star.kind = .star ∧ dots.kind = .dotDot ∧
    zero.kind = .integer ∧ Integer.natural? zero.text.toList = some 0

/-- The tokens start with dots and a number that is zero. -/
def StartsAtMostZero (ts : List Token) : Prop :=
  ∃ (dots zero : Token) (more : List Token), ts = dots :: zero :: more ∧ dots.kind = .dotDot ∧
    zero.kind = .integer ∧ Integer.natural? zero.text.toList = some 0

/-- No token is a star. -/
def StarFree (ts : List Token) : Prop := ∀ t ∈ ts, t.kind ≠ .star

variable {ts rest : List Token} {t : Token}

@[simp] theorem starFree_nil : StarFree [] := fun _ h => nomatch h

@[simp] theorem starFree_cons : StarFree (t :: ts) ↔ t.kind ≠ .star ∧ StarFree ts :=
  List.forall_mem_cons

@[simp] theorem starFree_append : StarFree (ts ++ rest) ↔ StarFree ts ∧ StarFree rest :=
  List.forall_mem_append

theorem StartsAtMostZero.firstKind_eq (h : StartsAtMostZero ts) : firstKind ts = .dotDot := by
  obtain ⟨dots, zero, more, rfl, hdots, -⟩ := h
  exact hdots

theorem not_startsAtMostZero_cons (h : t.kind ≠ .dotDot) : ¬ StartsAtMostZero (t :: ts) :=
  fun hstarts => h hstarts.firstKind_eq

@[simp] theorem not_writesNoHops_nil : ¬ WritesNoHops [] := by
  rintro ⟨star, dots, zero, h, -⟩
  cases List.eq_nil_of_infix_nil h

theorem writesNoHops_cons :
    WritesNoHops (t :: ts) ↔ t.kind = .star ∧ StartsAtMostZero ts ∨ WritesNoHops ts := by
  constructor
  · rintro ⟨star, dots, zero, h, hstar, hzero⟩
    rcases List.infix_cons_iff.mp h with ⟨more, h⟩ | h
    · obtain ⟨rfl, rfl⟩ := List.cons.inj h
      exact .inl ⟨hstar, dots, zero, more, rfl, hzero⟩
    · exact .inr ⟨star, dots, zero, h, hstar, hzero⟩
  · rintro (⟨hstar, dots, zero, more, rfl, hzero⟩ | ⟨star, dots, zero, h, hstar, hzero⟩)
    · exact ⟨t, dots, zero, ⟨[], more, rfl⟩, hstar, hzero⟩
    · exact ⟨star, dots, zero, List.infix_cons h, hstar, hzero⟩

/-- Nothing in front of the first star matters. -/
theorem StarFree.writesNoHops_append (h : StarFree ts) :
    WritesNoHops (ts ++ rest) ↔ WritesNoHops rest := by
  induction ts with
  | nil => rfl
  | cons t ts ih =>
    obtain ⟨ht, hts⟩ := starFree_cons.mp h
    rw [List.cons_append, writesNoHops_cons, ih hts]
    simp [ht]

namespace PatternGrammar

/-! ### Parts without a star -/

theorem Many.starFree {α : Type} {part : List Token → α → Prop} {as : List α}
    (hpart : ∀ ts a, part ts a → StarFree ts) (h : Many part ts as) : StarFree ts := by
  induction h with
  | nil => exact starFree_nil
  | cons hfirst _ ih => exact starFree_append.mpr ⟨hpart _ _ hfirst, ih⟩

theorem OptionalName.starFree {given : Option String} (h : OptionalName ts given) :
    StarFree ts := by
  cases h with
  | absent => exact starFree_nil
  | present ht => simp [ht]

theorem Label.starFree {label : String} (h : Label ts label) : StarFree ts := by
  obtain ⟨hcolon, hname⟩ := h
  simp [hcolon, hname]

theorem MoreType.starFree {name : String} (h : MoreType ts name) : StarFree ts := by
  cases h with
  | plain hpipe hname => simp [hpipe, hname]
  | colon hpipe hcolon hname => simp [hpipe, hcolon, hname]

theorem Types.starFree {types : List String} (h : Types ts types) : StarFree ts := by
  cases h with
  | absent => exact starFree_nil
  | present hcolon hnames =>
    obtain ⟨hname, hmore⟩ := hnames
    simp [hcolon, hname, hmore.starFree fun _ _ h => h.starFree]

theorem Literal.starFree {v : Value} (h : Literal ts v) : StarFree ts := by
  cases h <;> simp [*]

theorem Property.starFree {c : PropertyConstraint} (h : Property ts c) : StarFree ts := by
  obtain ⟨hkey, hcolon, hliteral⟩ := h
  simp [hkey, hcolon, hliteral.starFree]

theorem MoreProperty.starFree {c : PropertyConstraint} (h : MoreProperty ts c) : StarFree ts := by
  obtain ⟨hcomma, hproperty⟩ := h
  simp [hcomma, hproperty.starFree]

theorem Properties.starFree {cs : List PropertyConstraint} (h : Properties ts cs) :
    StarFree ts := by
  cases h with
  | absent => exact starFree_nil
  | empty hopening hclosing => simp [hopening, hclosing]
  | listed hopening hproperty hmore hclosing =>
    simp [hopening, hproperty.starFree, hmore.starFree fun _ _ h => h.starFree, hclosing]

theorem Node.starFree {n : NodePattern} (h : PatternGrammar.Node ts n) : StarFree ts := by
  obtain ⟨hopening, hname, hlabels, hproperties, hclosing⟩ := h
  simp [hopening, hname.starFree, hlabels.starFree fun _ _ h => h.starFree,
    hproperties.starFree, hclosing]

/-! ### Bounds -/

variable {low : Nat} {high : Option Nat}

theorem OptionalCount.starFree {count : Option Nat} (h : OptionalCount ts count) :
    StarFree ts := by
  cases h with
  | absent => exact starFree_nil
  | present ht => simp [ht]

theorem Bounds.starFree {bounds : Nat × Option Nat} (h : Bounds ts bounds) : StarFree ts := by
  cases h with
  | unbounded => exact starFree_nil
  | exactly ht => simp [ht]
  | range hlow hdots hhigh => simp [hlow.starFree, hdots, hhigh.starFree]

/-- Bounds are in order, or they are the one that is taken for a bound left out and a zero. -/
theorem Bounds.le_or (h : Bounds ts (low, high)) {n : Nat} (hn : high = some n) :
    low ≤ n ∨ low = 1 ∧ n = 0 := by
  generalize hbounds : (low, high) = bounds at h
  cases h with
  | unbounded | exactly => grind
  | @range _ _ _ low _ _ _ _ hle => cases low <;> grind

/-- Only where the least number is left out can the bounds be out of order. -/
theorem Bounds.startsAtMostZero_append_iff (h : Bounds ts (low, high))
    (hrest : firstKind rest ≠ .integer ∧ firstKind rest ≠ .dotDot) :
    StartsAtMostZero (ts ++ rest) ↔ ∃ n, high = some n ∧ n < low := by
  generalize hbounds : (low, high) = bounds at h
  cases h with
  | unbounded =>
    obtain ⟨rfl, rfl⟩ := Prod.mk.inj hbounds
    exact iff_of_false (fun h => hrest.2 h.firstKind_eq) (by simp)
  | exactly ht =>
    obtain ⟨rfl, rfl⟩ := Prod.mk.inj hbounds
    exact iff_of_false (not_startsAtMostZero_cons (by simp [ht])) (by simp)
  | @range dots ls hs least _ hlow hdots hhigh hle =>
    obtain ⟨rfl, rfl⟩ := Prod.mk.inj hbounds
    cases hlow with
    | @present t m ht =>
      -- the number in front of the dots is the least one, and the order has been checked
      refine iff_of_false (not_startsAtMostZero_cons (by simp [ht])) ?_
      rintro ⟨n, rfl, hlt⟩
      exact absurd (hle m n rfl rfl) (Nat.not_le.mpr hlt)
    | absent =>
      cases hhigh with
      | absent =>
        refine iff_of_false ?_ (by simp)
        rintro ⟨dots', zero, more, heq, -, hzero, -⟩
        obtain ⟨-, rfl⟩ := List.cons.inj heq
        exact hrest.1 hzero
      | @present t k ht hk =>
        constructor
        · rintro ⟨dots', zero, more, heq, -, -, hzero⟩
          obtain ⟨-, heq⟩ := List.cons.inj heq
          obtain ⟨rfl, -⟩ := List.cons.inj heq
          obtain rfl := Option.some.inj (hk.symm.trans hzero)
          exact ⟨0, rfl, Nat.zero_lt_one⟩
        · rintro ⟨n, hn, hlt⟩
          obtain rfl := Option.some.inj hn
          obtain rfl := Nat.lt_one_iff.mp hlt
          exact ⟨dots, t, rest, rfl, hdots, ht, hk⟩

theorem Hops.writesNoHops_append {bounds : Option Nat × Option Nat} (h : Hops ts bounds)
    (hrest : firstKind rest ≠ .integer ∧ firstKind rest ≠ .dotDot) :
    WritesNoHops (ts ++ rest) ↔ IsEmptyRange bounds ∨ WritesNoHops rest := by
  cases h with
  | absent => simp [IsEmptyRange]
  | present hstar hbounds =>
    rw [List.cons_append, writesNoHops_cons, hbounds.startsAtMostZero_append_iff hrest,
      hbounds.starFree.writesNoHops_append]
    simp [hstar, IsEmptyRange, and_assoc]

/-! ### Hops -/

theorem Brackets.writesNoHops_append {p : RelationshipPattern} (h : Brackets ts p) :
    WritesNoHops (ts ++ rest) ↔ p.HasEmptyRange ∨ WritesNoHops rest := by
  cases h with
  | absent => simp [RelationshipPattern.HasEmptyRange, IsEmptyRange]
  | @present opening closing ns ts hs ps given types low high constraints hopening hname htypes
      hhops hproperties hclosing =>
    have hlist : opening :: ns ++ ts ++ hs ++ ps ++ [closing] ++ rest
        = (opening :: ns ++ ts) ++ (hs ++ ((ps ++ [closing]) ++ rest)) := by simp
    have hfront : StarFree (opening :: ns ++ ts) := by
      simp [hopening, hname.starFree, htypes.starFree]
    have hback : StarFree (ps ++ [closing]) := by simp [hproperties.starFree, hclosing]
    have hbehind : firstKind (ps ++ [closing] ++ rest) = .openBrace ∨
        firstKind (ps ++ [closing] ++ rest) = .closeBracket := by
      rw [List.append_assoc, ← hclosing]
      exact hproperties.firstKind_append ([closing] ++ rest)
    have hends : firstKind (ps ++ [closing] ++ rest) ≠ .integer ∧
        firstKind (ps ++ [closing] ++ rest) ≠ .dotDot := by
      rcases hbehind with h | h <;> rw [h] <;> decide
    rw [hlist, hfront.writesNoHops_append, hhops.writesNoHops_append hends,
      hback.writesNoHops_append]
    rfl

theorem Brackets.writesNoHops_around {p : RelationshipPattern} {first last : Token}
    (h : Brackets ts p) (hfirst : first.kind ≠ .star) (hlast : last.kind ≠ .star) :
    WritesNoHops (first :: ts ++ [last] ++ rest) ↔ p.HasEmptyRange ∨ WritesNoHops rest := by
  rw [List.cons_append, List.cons_append, writesNoHops_cons, List.append_assoc,
    h.writesNoHops_append, List.singleton_append, writesNoHops_cons]
  simp [hfirst, hlast]

theorem Relationship.writesNoHops_append {p : RelationshipPattern} (h : Relationship ts p) :
    WritesNoHops (ts ++ rest) ↔ p.HasEmptyRange ∨ WritesNoHops rest := by
  -- the direction is no part of the range
  cases h with
  | outgoing hfirst hbrackets hlast | incoming hfirst hbrackets hlast
  | both hfirst hbrackets hlast =>
    exact hbrackets.writesNoHops_around (by simp [hfirst]) (by simp [hlast])

theorem Segment.writesNoHops_append {s : RelationshipPattern × NodePattern}
    (h : PatternGrammar.Segment ts s) :
    WritesNoHops (ts ++ rest) ↔ s.1.HasEmptyRange ∨ WritesNoHops rest := by
  obtain ⟨hhop, hnode⟩ := h
  rw [List.append_assoc, hhop.writesNoHops_append, hnode.starFree.writesNoHops_append]

theorem Path.writesNoHops_append {p : PathPattern} (h : PatternGrammar.Path ts p) :
    WritesNoHops (ts ++ rest) ↔ (∃ s ∈ p.segments, s.1.HasEmptyRange) ∨ WritesNoHops rest := by
  obtain ⟨hstart, hsegments⟩ := h
  rw [List.append_assoc, hstart.starFree.writesNoHops_append]
  clear hstart
  induction hsegments with
  | nil => simp
  | cons hsegment _ ih =>
    rw [List.append_assoc, hsegment.writesNoHops_append, ih]
    simp [or_assoc]

theorem Brackets.settlesHops {p : RelationshipPattern} (h : Brackets ts p) :
    p.SettlesHops := by
  intro hvariable
  cases h with
  | absent => cases hvariable
  | present _ _ _ hhops =>
    cases hhops with
    | absent => cases hvariable
    | present _ hbounds => exact ⟨_, rfl, fun high hhigh => hbounds.le_or hhigh⟩

theorem Path.settlesHops {p : PathPattern} (h : PatternGrammar.Path ts p) :
    ∀ s ∈ p.segments, s.1.SettlesHops := by
  obtain ⟨-, hsegments⟩ := h
  induction hsegments with
  | nil => simp
  | cons hsegment _ ih =>
    refine List.forall_mem_cons.mpr ⟨?_, ih⟩
    obtain ⟨hhop, -⟩ := hsegment
    cases hhop with
    | outgoing _ hbrackets | incoming _ hbrackets | both _ hbrackets => exact hbrackets.settlesHops

end PatternGrammar

/-! ### Texts -/

/-- A pattern is read from tokens that derive it and a mark of the end behind them. -/
theorem PathPattern.of_ofText {text : String} {p : PathPattern} (h : ofText text = .ok p) :
    ∃ body stop, Token.ofText text = .ok (body ++ [stop]) ∧ stop.kind = .endOfText ∧
      PatternGrammar.Path body p := by
  unfold ofText ofTokens at h
  cases htokens : Token.ofText text with
  | error e =>
    rw [htokens] at h
    cases h
  | ok tokens =>
    rw [htokens] at h
    obtain ⟨body, stop, rfl, hends⟩ := Token.ofText_spec htokens
    change (PatternReader.path (body ++ [stop]) >>= _) = _ at h
    cases hread : PatternReader.path (body ++ [stop]) with
    | error e =>
      rw [hread] at h
      cases h
    | ok read =>
      rw [hread] at h
      obtain rfl := Except.ok.inj h
      obtain ⟨hend, taken, heq, hpath⟩ := (PatternReader.path_eq_ok_iff hends.readable).mp hread
      obtain ⟨-, rfl⟩ := hends.eq_of_append heq hpath.endsClosed hend
      exact ⟨taken, stop, rfl, hends.stop_kind, hpath⟩

/-- **Ranges of hops that are read.**  A hop of variable length has a least number of hops, and its
largest number, if it has one, is not below the least, unless the two are one and zero.  There is a
hop with no number of hops between its bounds if and only if the text has a star, dots and a zero
in a row: the order of bounds is checked where both are written, and the one that is taken for a
bound left out comes after the check. -/
theorem hop_ranges {text : String} {p : PathPattern} (h : PathPattern.ofText text = .ok p) :
    ∃ tokens, Token.ofText text = .ok tokens ∧
      (∀ s ∈ p.segments, s.1.isVariableLength → ∃ low, s.1.minHops = some low ∧
        ∀ high, s.1.maxHops = some high → low ≤ high ∨ low = 1 ∧ high = 0) ∧
      ((∃ s ∈ p.segments, s.1.HasEmptyRange) ↔ WritesNoHops tokens) := by
  obtain ⟨body, stop, htokens, hstop, hpath⟩ := PathPattern.of_ofText h
  refine ⟨body ++ [stop], htokens, hpath.settlesHops, ?_⟩
  rw [hpath.writesNoHops_append, writesNoHops_cons]
  simp [hstop]

/-- The bounds of the hops of a pattern. -/
def PathPattern.hopBounds (p : PathPattern) : List (Option Nat × Option Nat) :=
  p.segments.map fun s => (s.1.minHops, s.1.maxHops)

theorem PathPattern.exists_of_hopBounds {text : String} {bounds : List (Option Nat × Option Nat)}
    (h : (ofText text).toOption.map hopBounds = some bounds) :
    ∃ p, ofText text = .ok p ∧ p.hopBounds = bounds := by
  cases hread : ofText text with
  | error e =>
    rw [hread] at h
    cases h
  | ok p =>
    rw [hread] at h
    exact ⟨p, rfl, Option.some.inj h⟩

/-- The second of two hops has an empty range, and the text says so in three tokens. -/
theorem hop_ranges_second_hop :
    ∃ p, PathPattern.ofText "(a)-[*2..3]->(b)-[* .. 00]-()" = .ok p ∧
      p.hopBounds = [(some 2, some 3), (some 1, some 0)] ∧
      ∃ tokens, Token.ofText "(a)-[*2..3]->(b)-[* .. 00]-()" = .ok tokens ∧
        WritesNoHops tokens := by
  obtain ⟨p, hp, hbounds⟩ := PathPattern.exists_of_hopBounds
    (show (PathPattern.ofText "(a)-[*2..3]->(b)-[* .. 00]-()").toOption.map PathPattern.hopBounds
      = some [(some 2, some 3), (some 1, some 0)] by decide +kernel)
  obtain ⟨tokens, htokens, -, hwritten⟩ := hop_ranges hp
  have hmem : (some 1, some 0) ∈ p.hopBounds := by simp [hbounds]
  obtain ⟨s, hs, heq⟩ := List.mem_map.mp hmem
  exact ⟨p, hp, hbounds, tokens, htokens, hwritten.mp ⟨s, hs, 1, 0, heq, Nat.zero_lt_one⟩⟩

/-- The largest number of hops may be below the least one. -/
theorem hop_range_of_no_hops :
    ¬ ∀ (text : String) (p : PathPattern), PathPattern.ofText text = .ok p →
      ∀ s ∈ p.segments, s.1.isVariableLength → ∀ high, s.1.maxHops = some high →
        ∃ low, s.1.minHops = some low ∧ low ≤ high := by
  intro hordered
  obtain ⟨p, hp, hbounds⟩ := PathPattern.exists_of_hopBounds
    (show (PathPattern.ofText "(a)-[*..0]->(b)").toOption.map PathPattern.hopBounds
      = some [(some 1, some 0)] by decide +kernel)
  have hmem : (some 1, some 0) ∈ p.hopBounds := by simp [hbounds]
  obtain ⟨s, hs, heq⟩ := List.mem_map.mp hmem
  obtain ⟨hmin, hmax⟩ := Prod.mk.inj heq
  have hvariable : s.1.isVariableLength := by simp [RelationshipPattern.isVariableLength, hmin]
  obtain ⟨low, hlow, hle⟩ := hordered _ p hp s hs hvariable 0 hmax
  obtain rfl := Option.some.inj (hmin.symm.trans hlow)
  exact absurd hle (by decide)

end PropertyGraph
