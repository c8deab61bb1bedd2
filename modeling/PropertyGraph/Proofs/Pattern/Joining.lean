import PropertyGraph.Proofs.Pattern.Prebinding

/-!
# Joining patterns

Fitting a pattern to results for others gives, up to their order, what matching it from the bindings of
each result gives (`matchNext_bindings`), as joining adds nothing to bindings that have grown already.  So
fitting patterns one after the other binds the names of all combinations of choices through them
(`Reachable.matchInTurn_bindings`), and does not depend on the order of the patterns (`matchAll_perm`).
-/

namespace PropertyGraph

section AnyEngine

variable {ρ : Type} [RegexEngine ρ]

/-! ### One more pattern -/

namespace Match

/-- A result for one more pattern, joined with the result that it was matched from. -/
def join? (before m : Match) : Option Match :=
  match before.bindings.join m.bindings with
  | (true, bindings) => some ⟨bindings, before.score.add m.score⟩
  | (false, _) => none

/-- Joining results with the one that their bindings have grown from keeps their bindings. -/
theorem map_bindings_join? {before : Match} (hself : Bindings.Consistent before.bindings.entries)
    (found : List Match)
    (hgrown : ∀ m ∈ found, ∃ named, before.bindings.bindMore named = some m.bindings) :
    (found.filterMap before.join?).map bindings = found.map bindings := by
  induction found with
  | nil => rfl
  | cons m rest ih =>
    obtain ⟨named, hnamed⟩ := hgrown m List.mem_cons_self
    have hjoin : before.join? m = some ⟨m.bindings, before.score.add m.score⟩ := by
      unfold join?
      rw [Bindings.join_bindMore hself hnamed]
    rw [List.filterMap_cons, hjoin]
    exact congrArg (m.bindings :: ·) (ih fun m' hm' => hgrown m' (List.mem_cons_of_mem m hm'))

theorem filterMap_join?_eq_nil {before : Match}
    (hself : ¬ Bindings.Consistent before.bindings.entries) {found : List Match}
    (hgrown : ∀ m ∈ found, ∃ named, before.bindings.bindMore named = some m.bindings) :
    found.filterMap before.join? = [] := by
  refine List.filterMap_eq_nil_iff.mpr fun m hm => ?_
  obtain ⟨named, hnamed⟩ := hgrown m hm
  have hfails := Bindings.join_of_not_consistent hself hnamed
  unfold join?
  rcases hjoin : before.bindings.join m.bindings with ⟨_ | _, joined⟩
  · rfl
  · rw [hjoin] at hfails
    cases hfails

end Match

namespace GraphView

variable {v : GraphView} {config : MatcherConfig} {pattern : PathPattern}

/-- The results for one more pattern that come from one of those before. -/
def matchFrom (v : GraphView) (config : MatcherConfig) (pattern : PathPattern) (before : Match) :
    Except Error (List Match) :=
  (v.matchPattern config pattern { initial := before.bindings }).map (·.filterMap before.join?)

theorem matchNext_eq (results : List Match) :
    v.matchNext config pattern results
      = (results.mapM (v.matchFrom config pattern)).map List.flatten := by
  have hfrom : (fun before : Match => do
      let found ← v.matchPattern config pattern { initial := before.bindings }
      return found.filterMap before.join?) = v.matchFrom config pattern := by
    funext before
    unfold matchFrom
    cases v.matchPattern config pattern { initial := before.bindings } <;> rfl
  have hnext : v.matchNext config pattern results
      = (results.mapM fun before : Match => do
          let found ← v.matchPattern config pattern { initial := before.bindings }
          return found.filterMap before.join?) >>= fun found => pure found.flatten := rfl
  rw [hnext, hfrom]
  cases results.mapM (v.matchFrom config pattern) <;> rfl

theorem matchNext_cons {before : Match} {rest found next : List Match}
    (hfound : v.matchPattern config pattern { initial := before.bindings } = .ok found)
    (hrest : v.matchNext config pattern rest = .ok next) :
    v.matchNext config pattern (before :: rest) = .ok (found.filterMap before.join? ++ next) := by
  have hfirst : v.matchFrom config pattern before = .ok (found.filterMap before.join?) := by
    unfold matchFrom
    rw [hfound]
    rfl
  rw [matchNext_eq] at hrest ⊢
  rw [List.mapM_cons, hfirst]
  cases hlater : rest.mapM (v.matchFrom config pattern) with
  | error e => rw [hlater] at hrest; cases hrest
  | ok later =>
    rw [hlater] at hrest
    obtain rfl := Except.ok.inj hrest
    rfl

/-- If matching from each result gives such bindings, which have grown from those of the result, then
fitting one more pattern to the results gives the bindings of all together. -/
theorem matchNext_bindings {results : List Match} (reached : Bindings → List Bindings)
    (hself : ∀ m ∈ results, Bindings.Consistent m.bindings.entries)
    (hfound : ∀ m ∈ results, ∃ found,
      v.matchPattern config pattern { initial := m.bindings } = .ok found ∧
        (found.map Match.bindings).Perm (reached m.bindings))
    (hgrown : ∀ m ∈ results, ∀ b ∈ reached m.bindings, ∃ named,
      m.bindings.bindMore named = some b) :
    ∃ next, v.matchNext config pattern results = .ok next ∧
      (next.map Match.bindings).Perm (results.flatMap fun m => reached m.bindings) := by
  induction results with
  | nil => exact ⟨[], rfl, List.Perm.refl _⟩
  | cons before rest ih =>
    obtain ⟨next, hnext, hperm⟩ := ih (fun m hm => hself m (List.mem_cons_of_mem _ hm))
      (fun m hm => hfound m (List.mem_cons_of_mem _ hm))
      (fun m hm => hgrown m (List.mem_cons_of_mem _ hm))
    obtain ⟨found, hmatch, hreached⟩ := hfound before List.mem_cons_self
    refine ⟨_, matchNext_cons hmatch hnext, ?_⟩
    have hjoined := Match.map_bindings_join? (hself before List.mem_cons_self) found
      fun m hm => hgrown before List.mem_cons_self _ (hreached.mem_iff.mp (List.mem_map_of_mem hm))
    rw [List.map_append, List.flatMap_cons, hjoined]
    exact hreached.append hperm

/-! ### Patterns one after the other -/

theorem matchInTurn_nil (patterns : List PathPattern) : v.matchInTurn config patterns [] = .ok [] := by
  cases patterns <;> rfl

/-- That nothing is tried where a pattern does not fit makes no difference. -/
theorem matchInTurn_cons {rest : List PathPattern} {results next : List Match}
    (hnext : v.matchNext config pattern results = .ok next) :
    v.matchInTurn config (pattern :: rest) results = v.matchInTurn config rest next := by
  rw [matchInTurn, hnext]
  show (if next.isEmpty = true then Except.ok [] else v.matchInTurn config rest next) = _
  split_ifs with hempty
  · rw [List.isEmpty_iff.mp hempty, matchInTurn_nil]
  · rfl

/-- No list of partial matches comes up to the cap while patterns are fitted one after the other. -/
def HasRoomInTurn (v : GraphView) (config : MatcherConfig) :
    List PathPattern → List Match → Prop
  | [], _ => True
  | pattern :: rest, results =>
    (∀ m ∈ results, pattern.HasRoomFrom v config m.bindings) ∧
      ∀ next, v.matchNext config pattern results = .ok next → HasRoomInTurn v config rest next

/-- What the ways through several patterns name, for each combination of ways. -/
def namings (v : GraphView) (config : MatcherConfig) :
    List PathPattern → List (List (String × Binding))
  | [] => [[]]
  | pattern :: rest => (v.choices config pattern).flatMap fun c =>
      (namings v config rest).map (c.named pattern ++ ·)

theorem filterMap_namings_cons {β : Type} (f : List (String × Binding) → Option β)
    (rest : List PathPattern) :
    (v.namings config (pattern :: rest)).filterMap f
      = (v.choices config pattern).flatMap fun c =>
          (v.namings config rest).filterMap fun named => f (c.named pattern ++ named) := by
  rw [namings, List.filterMap_flatMap]
  exact List.flatMap_congr fun c _ => List.filterMap_map

/-- Binding what all patterns name is binding what the first one names, and then the rest. -/
theorem filterMap_bindMore_namings (rest : List PathPattern) (b : Bindings) :
    (v.namings config (pattern :: rest)).filterMap b.bindMore
      = ((v.choices config pattern).filterMap fun c => b.bindMore (c.named pattern)).flatMap
          fun b' => (v.namings config rest).filterMap b'.bindMore := by
  rw [filterMap_namings_cons]
  induction v.choices config pattern with
  | nil => rfl
  | cons c choices ih =>
    rw [List.flatMap_cons, ih, List.filterMap_cons]
    simp only [Bindings.bindMore_append]
    cases b.bindMore (c.named pattern) with
    | none => simp only [Option.bind_none, List.filterMap_none, List.nil_append]
    | some b' => rfl

theorem matchAll_eq {patterns : List PathPattern} {initial : Bindings} {found : List Match}
    (h : v.matchInTurn config patterns [⟨initial, .zero⟩] = .ok found) :
    v.matchAll config patterns { initial } = .ok (Match.ranked found) := by
  unfold matchAll
  rw [h]
  rfl

end GraphView

namespace Store

variable {s : Store} {config : MatcherConfig} {pattern : PathPattern}

/-- Where no list is cut, fitting patterns one after the other binds what they name beside what each
result has bound, where it can. -/
theorem Reachable.matchInTurn_bindings (hs : s.Reachable)
    (hlabels : ∀ id n, s.node? id = some n → n.labels.Nodup) {patterns : List PathPattern}
    {results : List Match} (hroom : s.view.HasRoomInTurn config patterns results)
    (hself : ∀ m ∈ results, Bindings.Consistent m.bindings.entries) :
    ∃ found, s.view.matchInTurn config patterns results = .ok found ∧
      (found.map Match.bindings).Perm (results.flatMap fun m =>
        (s.view.namings config patterns).filterMap m.bindings.bindMore) := by
  induction patterns generalizing results with
  | nil =>
    refine ⟨results, rfl, List.Perm.of_eq ?_⟩
    rw [List.map_eq_flatMap]
    rfl
  | cons pattern rest ih =>
    let reached : Bindings → List Bindings := fun b =>
      (s.view.choices config pattern).filterMap fun c => b.bindMore (c.named pattern)
    have hgrown : ∀ b, ∀ b' ∈ reached b, ∃ named, b.bindMore named = some b' := by
      intro b b' hb'
      obtain ⟨c, -, hc⟩ := List.mem_filterMap.mp hb'
      exact ⟨_, hc⟩
    obtain ⟨next, hnext, hperm⟩ := GraphView.matchNext_bindings reached hself
      (fun m hm => hs.matchPattern_bindings hlabels (hroom.1 m hm)) fun m _ => hgrown m.bindings
    have hself' : ∀ m ∈ next, Bindings.Consistent m.bindings.entries := by
      intro m hm
      obtain ⟨before, hbefore, hm⟩ := List.mem_flatMap.mp (hperm.mem_iff.mp (List.mem_map_of_mem hm))
      obtain ⟨named, hnamed⟩ := hgrown before.bindings _ hm
      exact (Bindings.bindMore_self (hself before hbefore) hnamed).1
    -- what the patterns name together, from the results for the first one on
    have hall : (next.flatMap fun m => (s.view.namings config rest).filterMap m.bindings.bindMore).Perm
        (results.flatMap fun m =>
          (s.view.namings config (pattern :: rest)).filterMap m.bindings.bindMore) := by
      have hmap := List.Perm.flatMap_right
        (fun b : Bindings => (s.view.namings config rest).filterMap b.bindMore) hperm
      rw [List.flatMap_map, List.flatMap_assoc] at hmap
      refine hmap.trans (List.Perm.of_eq (List.flatMap_congr fun m _ => ?_))
      exact (GraphView.filterMap_bindMore_namings rest m.bindings).symm
    obtain ⟨found, hfound, hfoundPerm⟩ := ih (hroom.2 next hnext) hself'
    rw [GraphView.matchInTurn_cons hnext]
    exact ⟨found, hfound, hfoundPerm.trans hall⟩

/-! ### The order of patterns -/

theorem flatMap_flatMap_perm {α β γ : Type} (f : α → β → List γ) (xs : List α) (ys : List β) :
    (xs.flatMap fun x => ys.flatMap fun y => f x y).Perm
      (ys.flatMap fun y => xs.flatMap fun x => f x y) := by
  induction xs with
  | nil => exact List.Perm.of_eq (List.flatMap_eq_nil_iff.mpr fun _ _ => rfl).symm
  | cons x rest ih =>
    rw [List.flatMap_cons]
    refine (ih.append_left _).trans ?_
    exact List.flatMap_append_perm ys (f x) fun y => rest.flatMap fun x => f x y

/-- What a way through a pattern names is stored. -/
theorem Reachable.holds_of_mem_choices (hs : s.Reachable) {c : Choice}
    (hc : c ∈ s.view.choices config pattern) {e : String × Binding} (he : e ∈ c.named pattern) :
    s.Holds e.2 := by
  obtain ⟨c₀, hc₀, hops, hleads, rfl⟩ := hs.wellFormed.mem_grow.mp hc
  obtain ⟨n, hn, rfl⟩ := List.mem_map.mp hc₀
  exact Choice.holds_of_mem_named (c := ⟨n, hops⟩) hs.wellFormed (hs.mem_startNodes.mp hn).1 hleads he

theorem Reachable.holds_of_mem_namings (hs : s.Reachable) {patterns : List PathPattern}
    {named : List (String × Binding)} (hnamed : named ∈ s.view.namings config patterns) :
    ∀ e ∈ named, s.Holds e.2 := by
  induction patterns generalizing named with
  | nil =>
    obtain rfl := List.mem_singleton.mp hnamed
    exact fun e he => (List.not_mem_nil he).elim
  | cons pattern rest ih =>
    obtain ⟨c, hc, hmap⟩ := List.mem_flatMap.mp hnamed
    obtain ⟨later, hlater, rfl⟩ := List.mem_map.mp hmap
    intro e he
    exact (List.mem_append.mp he).elim (hs.holds_of_mem_choices hc) (ih hlater e)

/-- The lookups of what is bound when patterns are fitted one after the other, behind names that are there
before, are the same for each order of the patterns. -/
theorem Reachable.namings_perm (hs : s.Reachable) (b : Bindings) {patterns patterns' : List PathPattern}
    (hperm : patterns.Perm patterns') {before : List (String × Binding)}
    (hbefore : ∀ e ∈ before, s.Holds e.2) :
    ((s.view.namings config patterns).filterMap fun named =>
        (b.bindMore (before ++ named)).map Bindings.find?).Perm
      ((s.view.namings config patterns').filterMap fun named =>
        (b.bindMore (before ++ named)).map Bindings.find?) := by
  induction hperm generalizing before with
  | nil => exact List.Perm.refl _
  | @cons pattern patterns patterns' _ ih =>
    rw [GraphView.filterMap_namings_cons, GraphView.filterMap_namings_cons]
    refine List.Perm.flatMap_left _ fun c hc => ?_
    simp only [← List.append_assoc]
    refine ih fun e he => ?_
    exact (List.mem_append.mp he).elim (hbefore e) (hs.holds_of_mem_choices hc)
  | swap pattern pattern' rest =>
    simp only [GraphView.filterMap_namings_cons]
    refine (List.Perm.of_eq ?_).trans (flatMap_flatMap_perm _ _ _)
    refine List.flatMap_congr fun c hc => List.flatMap_congr fun c' hc' => ?_
    refine List.filterMap_congr fun named hnamed => ?_
    -- the names of two neighbours change places
    have hswap : (before ++ (c.named pattern' ++ (c'.named pattern ++ named))).Perm
        (before ++ (c'.named pattern ++ (c.named pattern' ++ named))) := by
      refine List.Perm.append_left before ?_
      rw [← List.append_assoc, ← List.append_assoc]
      exact List.perm_append_comm.append_right named
    have hholds : ∀ e ∈ before ++ (c.named pattern' ++ (c'.named pattern ++ named)),
        s.Holds e.2 := by
      intro e he
      simp only [List.mem_append] at he
      rcases he with he | he | he | he
      · exact hbefore e he
      · exact hs.holds_of_mem_choices hc he
      · exact hs.holds_of_mem_choices hc' he
      · exact hs.holds_of_mem_namings hnamed e he
    refine Bindings.map_find?_bindMore_perm b hswap fun hx hy hsame => ?_
    exact (hholds _ hx).eq_of_sameElement (hholds _ hy) (Binding.sameElement_iff.mp hsame)
  | trans _ _ ih ih' => exact (ih hbefore).trans (ih' hbefore)

/-- Matching several patterns from bindings that give each name to one element finds the lookups of all
that the patterns name together. -/
theorem Reachable.matchAll_lookups (hs : s.Reachable)
    (hlabels : ∀ id n, s.node? id = some n → n.labels.Nodup) {patterns : List PathPattern}
    {initial : Bindings} (hroom : s.view.HasRoomInTurn config patterns [⟨initial, .zero⟩])
    (hself : Bindings.Consistent initial.entries) :
    ∃ results, s.view.matchAll config patterns { initial } = .ok results ∧
      (results.map fun m => m.bindings.find?).Perm
        ((s.view.namings config patterns).filterMap fun named =>
          (initial.bindMore named).map Bindings.find?) := by
  obtain ⟨found, hfound, hperm⟩ := hs.matchInTurn_bindings hlabels hroom
    fun m hm => List.mem_singleton.mp hm ▸ hself
  refine ⟨_, GraphView.matchAll_eq hfound, ?_⟩
  have hranked : ((Match.ranked found).map fun m => m.bindings.find?).Perm
      ((found.map Match.bindings).map Bindings.find?) := by
    rw [List.map_map]
    exact (stableSort_perm _ _).map _
  refine (hranked.trans (hperm.map Bindings.find?)).trans (List.Perm.of_eq ?_)
  rw [List.flatMap_singleton, List.map_filterMap]

/-- Nothing can be joined with bindings that give one name to two elements. -/
theorem Reachable.matchAll_of_not_consistent (hs : s.Reachable)
    (hlabels : ∀ id n, s.node? id = some n → n.labels.Nodup) (rest : List PathPattern)
    {initial : Bindings} (hroom : pattern.HasRoomFrom s.view config initial)
    (hself : ¬ Bindings.Consistent initial.entries) :
    s.view.matchAll config (pattern :: rest) { initial } = .ok [] := by
  obtain ⟨found, hfound, hperm⟩ := hs.matchPattern_bindings hlabels hroom
  have hnone : found.filterMap (Match.join? ⟨initial, .zero⟩) = [] := by
    refine Match.filterMap_join?_eq_nil hself fun m hm => ?_
    obtain ⟨c, -, hc⟩ := List.mem_filterMap.mp (hperm.mem_iff.mp (List.mem_map_of_mem hm))
    exact ⟨_, hc⟩
  have hrest : s.view.matchNext config pattern [] = .ok [] := rfl
  have hnext : s.view.matchNext config pattern [⟨initial, .zero⟩] = .ok [] := by
    rw [GraphView.matchNext_cons hfound hrest, hnone]
    rfl
  have hturn : s.view.matchInTurn config (pattern :: rest) [⟨initial, .zero⟩] = .ok [] := by
    rw [GraphView.matchInTurn_cons hnext, GraphView.matchInTurn_nil]
  exact GraphView.matchAll_eq hturn

/-- Patterns that each have room where nothing is bound have room in turn. -/
theorem Reachable.hasRoomInTurn (hs : s.Reachable)
    (hlabels : ∀ id n, s.node? id = some n → n.labels.Nodup) {patterns : List PathPattern}
    (hroom : ∀ pattern ∈ patterns, pattern.HasRoom s.view config) (results : List Match) :
    s.view.HasRoomInTurn config patterns results := by
  induction patterns generalizing results with
  | nil => trivial
  | cons pattern rest ih =>
    refine ⟨fun m _ => ?_, fun next _ => ih (fun p hp => hroom p (List.mem_cons_of_mem _ hp)) next⟩
    exact hs.hasRoomFrom hlabels (hroom pattern List.mem_cons_self) m.bindings

theorem hasRoom_of_one_segment {segment : Segment} {v : GraphView}
    (hsegments : pattern.segments = [segment])
    (hroom : ∀ partials, v.starts config pattern.start {} = .ok partials →
      partials.length < config.maxResults ∧
        (v.extendAll config pattern.segments partials).length < config.maxResults) :
    pattern.HasRoom v config := by
  intro partials hstarts k
  match k with
  | 0 => exact (hroom partials hstarts).1
  | k + 1 =>
    have hall : pattern.segments.take (k + 1) = pattern.segments := by
      rw [hsegments, List.take_succ_cons, List.take_nil]
    rw [hall]
    exact (hroom partials hstarts).2

/-- **Joins do not depend on the order of patterns.**  Let no node of the store name a label twice, and
let no list of partial matches come up to the cap, neither for the patterns in one order nor for those in
another.  Matching them all, with any bindings from the start, gives results with the same lookups for
both orders, each of them as often. -/
theorem matchAll_perm (hs : s.Reachable) (hlabels : ∀ id n, s.node? id = some n → n.labels.Nodup)
    (config : MatcherConfig) {patterns patterns' : List PathPattern} (hperm : patterns.Perm patterns')
    (initial : Bindings) (hroom : s.view.HasRoomInTurn config patterns [⟨initial, .zero⟩])
    (hroom' : s.view.HasRoomInTurn config patterns' [⟨initial, .zero⟩]) :
    ∃ results results', s.view.matchAll config patterns { initial } = .ok results ∧
      s.view.matchAll config patterns' { initial } = .ok results' ∧
      (results.map fun m => m.bindings.find?).Perm (results'.map fun m => m.bindings.find?) := by
  by_cases hself : Bindings.Consistent initial.entries
  · obtain ⟨results, hresults, hlookups⟩ := hs.matchAll_lookups hlabels hroom hself
    obtain ⟨results', hresults', hlookups'⟩ := hs.matchAll_lookups hlabels hroom' hself
    have hnamings : ((s.view.namings config patterns).filterMap fun named =>
          (initial.bindMore ([] ++ named)).map Bindings.find?).Perm
        ((s.view.namings config patterns').filterMap fun named =>
          (initial.bindMore ([] ++ named)).map Bindings.find?) :=
      hs.namings_perm initial hperm fun e he => (List.not_mem_nil he).elim
    exact ⟨results, results', hresults, hresults', (hlookups.trans hnamings).trans hlookups'.symm⟩
  · -- one pattern is enough to find nothing, in either order
    cases patterns with
    | nil =>
      obtain rfl := List.nil_perm.mp hperm
      exact ⟨_, _, rfl, rfl, List.Perm.refl _⟩
    | cons pattern rest =>
      cases patterns' with
      | nil => cases List.perm_nil.mp hperm
      | cons pattern' rest' =>
        have hfirst := hs.matchAll_of_not_consistent hlabels rest
          (hroom.1 _ (List.mem_singleton_self _)) hself
        have hfirst' := hs.matchAll_of_not_consistent hlabels rest'
          (hroom'.1 _ (List.mem_singleton_self _)) hself
        exact ⟨[], [], hfirst, hfirst', List.Perm.refl _⟩

end Store

end AnyEngine

namespace Store

/-- A person and someone that the person knows. -/
def knowsPattern : PathPattern where
  start := { name := some "x", labels := ["Person"] }
  segments := [({ name := some "r", types := ["knows"] }, { name := some "y" })]

/-- A path from the one to the other. -/
def backPattern : PathPattern where
  start := { name := some "y" }
  segments := [({ name := some "p", direction := .both, minHops := some 1 }, { name := some "x" })]

theorem matchAll_knows_back :
    ∃ results results', pair.view.matchAll {} [knowsPattern, backPattern] {} = .ok results ∧
      pair.view.matchAll {} [backPattern, knowsPattern] {} = .ok results' ∧ results.length = 1 ∧
      (results.map fun m => m.bindings.find?).Perm (results'.map fun m => m.bindings.find?) := by
  have hknows : knowsPattern.HasRoom pair.view {} :=
    hasRoom_of_one_segment rfl fun partials hstarts => by
      obtain rfl := Except.ok.inj hstarts
      decide +kernel
  have hback : backPattern.HasRoom pair.view {} :=
    hasRoom_of_one_segment rfl fun partials hstarts => by
      obtain rfl := Except.ok.inj hstarts
      decide +kernel
  obtain ⟨results, results', hresults, hresults', hperm⟩ := matchAll_perm reachable_pair
    nodup_labels_pair {} (List.Perm.swap backPattern knowsPattern []) {}
    (reachable_pair.hasRoomInTurn nodup_labels_pair (by simp [hknows, hback]) _)
    (reachable_pair.hasRoomInTurn nodup_labels_pair (by simp [hknows, hback]) _)
  have hlength : (pair.view.matchAll {} [knowsPattern, backPattern] {}).toOption.map List.length
      = some 1 := by decide +kernel
  rw [hresults] at hlength
  exact ⟨results, results', hresults, hresults', Option.some.inj hlength, hperm⟩

end Store

end PropertyGraph
