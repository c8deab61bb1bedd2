import PropertyGraph.Proofs.Pattern.Joining

/-!
# Cutting a pattern in two

A pattern can be cut at a node that has a variable: its first part ends there, and its second part starts
from any node that the variable is bound to.  A partial match at the cut stands on a stored node to which
its variable is bound (`GrownFrom.extensions`), so the second part starts on this node again
(`WellFormed.starts_behind`).  What a partial match is extended to depends on nothing else than this node
and the bindings (`map_place_extendFreely`).  So the second part reaches, from what the first part reaches,
what the whole reaches (`Reachable.reached_parts`), and joining the parts gives the results of the whole
(`matchAll_parts`).
-/

namespace PropertyGraph

section AnyEngine

variable {ρ : Type} [RegexEngine ρ]

variable {s : Store} {v : GraphView} {config : MatcherConfig} {segment : Segment}
  {segments : List Segment} {pattern : PathPattern} {initial : Bindings} {p q : PartialMatch}

/-! ### Where a partial match stands -/

namespace PartialMatch

/-- All that the extensions of a partial match depend on, up to the number of hops. -/
def place (p : PartialMatch) : Bindings × Node := (p.bindings, p.current)

/-- The places that one segment leads to from a place. -/
def placesBehind (v : GraphView) (config : MatcherConfig) (segment : Segment) :
    Bindings × Node → List (Bindings × Node)
  | (b, n) => (v.ways config segment n).filterMap fun hop =>
      (b.bindMore (Choice.namedHop segment hop)).map fun b => (b, hop.2)

theorem map_place_extensions (p : PartialMatch) :
    (p.extensions v config segment).map place = placesBehind v config segment p.place := by
  rw [extensions_eq, List.map_filterMap]
  refine List.filterMap_congr fun hop _ => ?_
  rw [take?_eq, Option.map_map]
  rfl

/-- The partial match stands on a stored node, and its bindings have grown from others. -/
structure GrownFrom (s : Store) (initial : Bindings) (p : PartialMatch) : Prop where
  stored : s.node? p.current.id = some p.current
  grown : ∃ named, initial.bindMore named = some p.bindings

/-- The variable is bound to the node on which the partial match stands. -/
def StandsAt (p : PartialMatch) (name : String) : Prop :=
  ∃ x, p.bindings.find? name = some x ∧ x.sameElement (.node p.current)

/-- An extension has grown further, and its last variable is bound to the node on which it stands. -/
theorem GrownFrom.extensions (hs : s.WellFormed) (hp : p.GrownFrom s initial)
    (hq : q ∈ p.extensions s.view config segment) :
    q.GrownFrom s initial ∧ ∀ name, segment.2.name = some name → q.StandsAt name := by
  rw [extensions_eq, List.mem_filterMap] at hq
  obtain ⟨⟨followed, reached⟩, hway, htake⟩ := hq
  rw [take?_eq, Option.map_eq_some_iff] at htake
  obtain ⟨b, hb, rfl⟩ := htake
  obtain ⟨named, hnamed⟩ := hp.grown
  have hstored := ((hs.mem_ways.mp hway).holds hs hp.stored).2
  refine ⟨⟨hstored, named ++ Choice.namedHop segment (followed, reached), ?_⟩, fun name hname => ?_⟩
  · rw [Bindings.bindMore_append, hnamed]
    exact hb
  · unfold Choice.namedHop at hb
    rw [Bindings.bindMore_append, Option.bind_eq_some_iff] at hb
    obtain ⟨b₁, -, hlast⟩ := hb
    rw [hname] at hlast
    obtain ⟨b₂, hbind, hsame⟩ := Option.bind_eq_some_iff.mp hlast
    obtain rfl := Option.some.inj hsame
    obtain ⟨x, hx, hidentity, -⟩ := Bindings.exists_find?_bind? hbind
    exact ⟨x, hx, Binding.sameElement_iff.mpr hidentity⟩

end PartialMatch

namespace GraphView

/-- Partial matches at the same places lead to the same places. -/
theorem map_place_extendFreely {partials partials' : List PartialMatch}
    (h : partials.map PartialMatch.place = partials'.map PartialMatch.place) :
    (v.extendFreely config segments partials).map PartialMatch.place
      = (v.extendFreely config segments partials').map PartialMatch.place := by
  induction segments generalizing partials partials' with
  | nil => exact h
  | cons segment segments ih =>
    have hbehind : ∀ partials : List PartialMatch,
        (partials.flatMap (·.extensions v config segment)).map PartialMatch.place
          = (partials.map PartialMatch.place).flatMap
              (PartialMatch.placesBehind v config segment) := by
      intro partials
      rw [List.map_flatMap, List.flatMap_map]
      exact List.flatMap_congr fun p _ => p.map_place_extensions
    exact ih (by rw [hbehind, hbehind, h])

/-- What is bound behind a pattern if no list is cut. -/
def reached (v : GraphView) (config : MatcherConfig) (pattern : PathPattern) (initial : Bindings) :
    List Bindings :=
  match v.starts config pattern.start initial with
  | .ok partials => (v.extendFreely config pattern.segments partials).map PartialMatch.bindings
  | .error _ => []

theorem reached_of_starts (pattern : PathPattern) {partials : List PartialMatch}
    (hstarts : v.starts config pattern.start initial = .ok partials) :
    v.reached config pattern initial
      = (v.extendFreely config pattern.segments partials).map PartialMatch.bindings := by
  unfold reached
  rw [hstarts]

end GraphView

namespace Store

/-- Extensions along several segments have grown further. -/
theorem WellFormed.grownFrom_extendFreely (hs : s.WellFormed) {partials : List PartialMatch}
    (h : ∀ p ∈ partials, p.GrownFrom s initial) :
    ∀ q ∈ s.view.extendFreely config segments partials, q.GrownFrom s initial := by
  induction segments generalizing partials with
  | nil => exact h
  | cons segment segments ih =>
    refine ih fun q hq => ?_
    obtain ⟨p, hp, hq⟩ := List.mem_flatMap.mp hq
    exact ((h p hp).extensions hs hq).1

/-- At the end of some segments the last variable is bound to the node that was reached. -/
theorem WellFormed.standsAt_extendFreely (hs : s.WellFormed) {partials : List PartialMatch}
    (h : ∀ p ∈ partials, p.GrownFrom s initial) {name : String} (hname : segment.2.name = some name) :
    ∀ q ∈ s.view.extendFreely config (segments ++ [segment]) partials, q.StandsAt name := by
  intro q hq
  rw [GraphView.extendFreely_append] at hq
  obtain ⟨p, hp, hq⟩ := List.mem_flatMap.mp hq
  exact ((hs.grownFrom_extendFreely h p hp).extensions hs hq).2 name hname

/-- A pattern starts from stored nodes, and binds no more than its variable there. -/
theorem Reachable.starts_grown (hs : s.Reachable) (config : MatcherConfig) (start : NodePattern)
    (initial : Bindings) :
    ∃ partials, s.view.starts config start initial = .ok partials ∧
      ∀ p ∈ partials, p.GrownFrom s initial := by
  cases hbound : start.name.bind initial.find? with
  | some bound =>
    unfold GraphView.starts
    rw [hbound]
    refine ⟨_, rfl, fun p hp => ?_⟩
    obtain ⟨n, hn, rfl⟩ := List.mem_map.mp hp
    rw [Option.mem_toList, Option.filter_eq_some_iff, Option.bind_eq_some_iff] at hn
    obtain ⟨⟨m, -, hn⟩, -⟩ := hn
    have hid : n.id = m.id := hs.wellFormed.id_of_node hn
    exact ⟨show s.node? n.id = some n from hid ▸ hn, [], rfl⟩
  | none =>
    -- the variable of the start, if it has one, is all that is bound here
    refine ⟨_, s.starts_unbound config hbound, fun p hp => ?_⟩
    obtain ⟨n, hn, hp⟩ := List.mem_filterMap.mp (List.mem_of_mem_take hp)
    obtain ⟨b, hb, rfl⟩ := Option.map_eq_some_iff.mp hp
    refine ⟨(hs.mem_startNodes.mp hn).1, (Binding.node n).under start.name, ?_⟩
    exact (Binding.foldlM_under start.name (.node n) initial).trans hb

/-- A pattern whose start asks for no more than a variable starts again from the node that the variable is
bound to. -/
theorem starts_again {name : String} (hstored : s.node? p.current.id = some p.current)
    (hat : p.StandsAt name) (config : MatcherConfig) :
    s.view.starts config { name := some name } p.bindings = .ok [⟨p.bindings, p.current, 0⟩] := by
  obtain ⟨x, hx, hsame⟩ := hat
  cases x with
  | node m =>
    have hid : m.id = p.current.id := ElementIdentity.node.inj (Binding.sameElement_iff.mp hsame)
    have hnow : s.view.node? m.id = some p.current := by
      rw [hid]
      exact hstored
    unfold GraphView.starts
    rw [show (some name).bind p.bindings.find? = some (.node m) from hx]
    show Except.ok (((s.view.node? m.id).filter _).toList.map _) = _
    rw [hnow]
    rfl
  | edge e => cases Binding.sameElement_iff.mp hsame
  | path path => cases Binding.sameElement_iff.mp hsame

/-! ### What is reached -/

/-- What is reached has grown from the bindings at the start. -/
theorem Reachable.grown_of_mem_reached (hs : s.Reachable) {b : Bindings}
    (hb : b ∈ s.view.reached config pattern initial) : ∃ named, initial.bindMore named = some b := by
  obtain ⟨partials, hstarts, hgrown⟩ := hs.starts_grown config pattern.start initial
  rw [GraphView.reached_of_starts pattern hstarts] at hb
  obtain ⟨p, hp, rfl⟩ := List.mem_map.mp hb
  exact (hs.wellFormed.grownFrom_extendFreely hgrown p hp).grown

/-- Where no list is cut, matching gives what is reached. -/
theorem Reachable.matchPattern_reached (hs : s.Reachable)
    (hroom : pattern.HasRoomFrom s.view config initial) :
    ∃ found, s.view.matchPattern config pattern { initial } = .ok found ∧
      (found.map Match.bindings).Perm (s.view.reached config pattern initial) := by
  obtain ⟨partials, hstarts, -⟩ := hs.starts_grown config pattern.start initial
  rw [GraphView.reached_of_starts pattern hstarts]
  exact ⟨_, GraphView.matchPattern_of_starts hstarts (hroom _ hstarts), Match.map_bindings_ranked _ _⟩

/-- Fitting one more pattern to results gives what is reached from them. -/
theorem Reachable.matchNext_reached (hs : s.Reachable) (pattern : PathPattern) (results : List Match)
    (hself : ∀ m ∈ results, Bindings.Consistent m.bindings.entries)
    (hroom : ∀ m ∈ results, pattern.HasRoomFrom s.view config m.bindings) :
    ∃ next, s.view.matchNext config pattern results = .ok next ∧
      (next.map Match.bindings).Perm
        (results.flatMap fun m => s.view.reached config pattern m.bindings) :=
  GraphView.matchNext_bindings (s.view.reached config pattern) hself
    (fun m hm => hs.matchPattern_reached (hroom m hm)) fun _ _ _ hb => hs.grown_of_mem_reached hb

/-! ### Both parts -/

section Parts

variable {start : NodePattern} {before after : List Segment} {cut : Segment} {name : String}

/-- The second part starts on the node on which the first part ends. -/
theorem WellFormed.starts_behind (hs : s.WellFormed) {partials : List PartialMatch}
    (hgrown : ∀ p ∈ partials, p.GrownFrom s initial) (hname : cut.2.name = some name)
    (hp : p ∈ s.view.extendFreely config (before ++ [cut]) partials) :
    s.view.starts config { name := some name } p.bindings = .ok [⟨p.bindings, p.current, 0⟩] :=
  starts_again (hs.grownFrom_extendFreely hgrown p hp).stored
    (hs.standsAt_extendFreely hgrown hname p hp) config

/-- A pattern that is cut at a node with a variable reaches what its second part reaches from all that its
first part reaches. -/
theorem Reachable.reached_parts (hs : s.Reachable) (hname : cut.2.name = some name) :
    s.view.reached config ⟨start, (before ++ [cut]) ++ after⟩ initial
      = (s.view.reached config ⟨start, before ++ [cut]⟩ initial).flatMap
          (s.view.reached config ⟨{ name := some name }, after⟩) := by
  obtain ⟨partials, hstarts, hgrown⟩ := hs.starts_grown config start initial
  rw [GraphView.reached_of_starts ⟨start, _⟩ hstarts,
    GraphView.reached_of_starts ⟨start, _⟩ hstarts]
  dsimp only
  rw [GraphView.extendFreely_append, GraphView.extendFreely_eq_flatMap after, List.map_flatMap,
    List.flatMap_map]
  -- one partial match at the cut, and the one with which the second part starts again
  refine List.flatMap_congr fun p hp => ?_
  have hagain := hs.wellFormed.starts_behind hgrown hname hp
  rw [GraphView.reached_of_starts ⟨_, after⟩ hagain]
  have hplaces : (s.view.extendFreely config after [p]).map PartialMatch.place
      = (s.view.extendFreely config after [⟨p.bindings, p.current, 0⟩]).map PartialMatch.place :=
    GraphView.map_place_extendFreely rfl
  have hbindings := congrArg (List.map Prod.fst) hplaces
  rw [List.map_map, List.map_map] at hbindings
  exact hbindings

/-- The first part has no other partial matches than the whole has up to the cut. -/
theorem hasRoomFrom_before (hroom : PathPattern.HasRoomFrom ⟨start, before ++ after⟩ v config initial) :
    PathPattern.HasRoomFrom ⟨start, before⟩ v config initial := by
  intro partials hstarts k
  have hk := hroom partials hstarts (min k before.length)
  dsimp only at hk ⊢
  rw [List.take_append_of_le_length (Nat.min_le_right _ _)] at hk
  rwa [List.take_eq_take_min]

/-- From one place on, the second part has no more partial matches than the whole has behind the cut. -/
theorem length_extendAll_behind {partials : List PartialMatch}
    (hroom : ∀ k, (v.extendAll config ((before ++ after).take k) partials).length < config.maxResults)
    (hp : p ∈ v.extendFreely config before partials) (hplace : q.place = p.place) (k : Nat) :
    (v.extendAll config (after.take k) [q]).length < config.maxResults := by
  have hsame : (v.extendFreely config (after.take k) [q]).length
      = (v.extendFreely config (after.take k) [p]).length := by
    have hplaces : (v.extendFreely config (after.take k) [q]).map PartialMatch.place
        = (v.extendFreely config (after.take k) [p]).map PartialMatch.place :=
      GraphView.map_place_extendFreely (congrArg ([·]) hplace)
    simpa using congrArg List.length hplaces
  calc (v.extendAll config (after.take k) [q]).length
      ≤ (v.extendFreely config (after.take k) [q]).length := (GraphView.extendAll_sublist _ _).length_le
    _ = (v.extendFreely config (after.take k) [p]).length := hsame
    _ ≤ (v.extendFreely config (after.take k) (v.extendFreely config before partials)).length :=
        (GraphView.extendFreely_sublist (List.singleton_sublist.mpr hp)).length_le
    _ = (v.extendFreely config ((before ++ after).take (before.length + k)) partials).length := by
        rw [List.take_length_add_append, GraphView.extendFreely_append]
    _ < config.maxResults := GraphView.length_extendFreely_lt hroom _

theorem Reachable.hasRoomFrom_after (hs : s.Reachable) (hname : cut.2.name = some name)
    (hroom : PathPattern.HasRoomFrom ⟨start, (before ++ [cut]) ++ after⟩ s.view config initial)
    {b : Bindings} (hb : b ∈ s.view.reached config ⟨start, before ++ [cut]⟩ initial) :
    PathPattern.HasRoomFrom ⟨{ name := some name }, after⟩ s.view config b := by
  obtain ⟨partials, hstarts, hgrown⟩ := hs.starts_grown config start initial
  rw [GraphView.reached_of_starts ⟨start, _⟩ hstarts] at hb
  obtain ⟨p, hp, rfl⟩ := List.mem_map.mp hb
  intro again hagain k
  rw [hs.wellFormed.starts_behind hgrown hname hp] at hagain
  obtain rfl := Except.ok.inj hagain
  exact length_extendAll_behind (q := ⟨p.bindings, p.current, 0⟩) (hroom partials hstarts) hp rfl k

end Parts

/-- **A path splits into a join.**  Let a pattern be cut at a node that has a variable, and let no list of
partial matches come up to the cap where the whole is matched.  Matching the first part, up to this node,
together with the second part, which starts from any node in the variable, gives the bindings that matching
the whole gives, each of them as often.  Both start from the same bindings: none, or any that give each
name to one element. -/
theorem matchAll_parts (hs : s.Reachable) (config : MatcherConfig) (start : NodePattern)
    (before : List Segment) (hop : RelationshipPattern) (node : NodePattern) (after : List Segment)
    {name : String} (hname : node.name = some name) {initial : Bindings}
    (hself : Bindings.Consistent initial.entries)
    (hroom : PathPattern.HasRoomFrom ⟨start, before ++ (hop, node) :: after⟩ s.view config initial) :
    ∃ whole parts,
      s.view.matchPattern config ⟨start, before ++ (hop, node) :: after⟩ { initial } = .ok whole ∧
      s.view.matchAll config [⟨start, before ++ [(hop, node)]⟩, ⟨{ name := some name }, after⟩]
        { initial } = .ok parts ∧
      (parts.map Match.bindings).Perm (whole.map Match.bindings) := by
  have hcut : (hop, node).2.name = some name := hname
  rw [List.append_cons] at hroom ⊢
  obtain ⟨whole, hwhole, hwholeBindings⟩ := hs.matchPattern_reached hroom
  -- the first part, from the bindings at the start
  have hstart : ∀ m ∈ [(⟨initial, .zero⟩ : Match)], m.bindings = initial := fun m hm => by
    rw [List.mem_singleton.mp hm]
  obtain ⟨first, hfirst, hfirstBindings⟩ :=
    hs.matchNext_reached ⟨start, before ++ [(hop, node)]⟩ [⟨initial, .zero⟩]
      (fun m hm => (hstart m hm).symm ▸ hself) fun m hm => (hstart m hm).symm ▸ hasRoomFrom_before hroom
  rw [List.flatMap_singleton] at hfirstBindings
  have hmem : ∀ m ∈ first,
      m.bindings ∈ s.view.reached config ⟨start, before ++ [(hop, node)]⟩ initial := fun m hm =>
    hfirstBindings.mem_iff.mp (List.mem_map_of_mem hm)
  -- the second part, from each result for the first one
  have hself' : ∀ m ∈ first, Bindings.Consistent m.bindings.entries := by
    intro m hm
    obtain ⟨named, hnamed⟩ := hs.grown_of_mem_reached (hmem m hm)
    exact (Bindings.bindMore_self hself hnamed).1
  obtain ⟨second, hsecond, hsecondBindings⟩ :=
    hs.matchNext_reached ⟨{ name := some name }, after⟩ first hself'
      fun m hm => hs.hasRoomFrom_after hcut hroom (hmem m hm)
  have hturn : s.view.matchInTurn config
      [⟨start, before ++ [(hop, node)]⟩, ⟨{ name := some name }, after⟩] [⟨initial, .zero⟩]
        = .ok second := by
    rw [GraphView.matchInTurn_cons hfirst, GraphView.matchInTurn_cons hsecond]
    rfl
  refine ⟨whole, _, hwhole, GraphView.matchAll_eq hturn, ?_⟩
  have hpart : (second.map Match.bindings).Perm
      (s.view.reached config ⟨start, (before ++ [(hop, node)]) ++ after⟩ initial) := by
    rw [hs.reached_parts hcut]
    refine hsecondBindings.trans ?_
    rw [← List.flatMap_map (f := Match.bindings)]
    exact hfirstBindings.flatMap_right _
  have hranked : (Match.ranked second).Perm second := stableSort_perm _ _
  exact ((hranked.map Match.bindings).trans hpart).trans hwholeBindings.symm

end Store

end AnyEngine

namespace Store

/-- The acquaintances of a person, cut at the acquaintance. -/
theorem matchAll_acquaintance_parts :
    ∃ whole parts, pair.view.matchPattern {} acquaintancePattern {} = .ok whole ∧
      pair.view.matchAll {}
        [⟨acquaintancePattern.start, acquaintancePattern.segments.take 1⟩,
          ⟨{ name := some "y" }, acquaintancePattern.segments.drop 1⟩] {} = .ok parts ∧
      whole.length = 1 ∧ (parts.map Match.bindings).Perm (whole.map Match.bindings) := by
  obtain ⟨whole, parts, hwhole, hparts, hperm⟩ := matchAll_parts reachable_pair {}
    acquaintancePattern.start [] { name := some "r", types := ["knows"] } { name := some "y" }
    (acquaintancePattern.segments.drop 1) rfl (fun _ _ _ hx => (List.not_mem_nil hx).elim)
    acquaintancePattern_hasRoom
  have hlength : (pair.view.matchPattern {} acquaintancePattern {}).toOption.map List.length
      = some 1 := by decide +kernel
  refine ⟨whole, parts, hwhole, hparts, ?_, hperm⟩
  rw [show pair.view.matchPattern {} acquaintancePattern {} = .ok whole from hwhole] at hlength
  exact Option.some.inj hlength

end Store

end PropertyGraph
