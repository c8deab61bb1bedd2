import PropertyGraph.Pattern.Matching
import PropertyGraph.Proofs.Pattern.Expansion
import PropertyGraph.Proofs.Store.Scans

/-!
# Ways through a pattern

A `Choice` takes a start node for a pattern and then, segment by segment, an edge or a path that
leads on to a node.  Which choices a store offers is said without reference to the matcher
(`Store.Follows`, `Store.Leads`).  `GraphView.grow` lists them: it offers exactly these choices
(`mem_grow`) and each once (`nodup_grow`).
-/

namespace PropertyGraph

variable {ρ : Type} [RegexEngine ρ]

/-- A hop of a pattern and the node behind it. -/
abbrev Segment := RelationshipPattern × NodePattern

/-- A way through a pattern: its start, and for each segment what is followed and the node that it
leads to. -/
structure Choice where
  start : Node
  hops : List (Binding × Node) := []

namespace Choice

/-- The node from which the next segment goes on. -/
def current (c : Choice) : Node := (c.hops.getLast?.map Prod.snd).getD c.start

def append (c : Choice) (hops : List (Binding × Node)) : Choice :=
  { c with hops := c.hops ++ hops }

def concat (c : Choice) (hop : Binding × Node) : Choice := c.append [hop]

theorem append_nil (c : Choice) : c.append [] = c := by
  unfold append
  rw [List.append_nil]

theorem append_cons (c : Choice) (hop : Binding × Node) (hops : List (Binding × Node)) :
    c.append (hop :: hops) = (c.concat hop).append hops := by
  unfold concat append
  rw [List.append_cons]

theorem current_concat (c : Choice) (hop : Binding × Node) : (c.concat hop).current = hop.2 := by
  unfold current concat append
  rw [List.getLast?_concat]
  rfl

theorem concat_injective {c c' : Choice} {hop hop' : Binding × Node}
    (h : c.concat hop = c'.concat hop') : c = c' ∧ hop = hop' := by
  obtain ⟨start, hops⟩ := c
  obtain ⟨start', hops'⟩ := c'
  obtain ⟨rfl, hhops⟩ := Choice.mk.inj h
  obtain ⟨rfl, hhop⟩ := List.append_inj' hhops rfl
  exact ⟨rfl, List.singleton_inj.mp hhop⟩

end Choice

/-! ### What a store offers -/

namespace Store

/-- The part of the graph is stored as it is. -/
def Holds (s : Store) : Binding → Prop
  | .node n => s.node? n.id = some n
  | .edge e => s.edge? e.key = some e
  | .path p => (∀ n ∈ p.nodes, s.node? n.id = some n) ∧ ∀ e ∈ p.edges, s.edge? e.key = some e

/-- What can be followed from a node along a segment, and the node it leads to. -/
inductive Follows (s : Store) (config : MatcherConfig) (segment : Segment) (current : Node) :
    Binding → Node → Prop where
  /-- A stored edge in the direction of the segment that its hop accepts. -/
  | edge {e : Edge} {n : Node} (hlength : segment.1.isVariableLength = false)
      (he : s.edge? e.key = some e) (hdirection : segment.1.direction.Allows current.id e)
      (haccepts : segment.1.accepts e) (hother : e.otherNode? current.id = some n.id)
      (hn : s.node? n.id = some n) (hnode : segment.2.accepts n) :
      Follows s config segment current (.edge e) n
  /-- A path of the expansion over the range of the hop. -/
  | path {p : Path} {n : Node} (hlength : segment.1.isVariableLength)
      (hp : p ∈ (s.view.expand current segment.1 (segment.1.hopRange config.maxHops).1
        (segment.1.hopRange config.maxHops).2 config.maxResults).paths)
      (hend : p.end? = some n) (hnode : segment.2.accepts n) :
      Follows s config segment current (.path p) n

/-- Hops along segments, each one from the node that the one before it leads to. -/
inductive Leads (s : Store) (config : MatcherConfig) :
    Node → List Segment → List (Binding × Node) → Prop where
  | nil {current : Node} : Leads s config current [] []
  | cons {current reached : Node} {segment : Segment} {segments : List Segment} {followed : Binding}
      {hops : List (Binding × Node)} (hfollows : s.Follows config segment current followed reached)
      (hleads : Leads s config reached segments hops) :
      Leads s config current (segment :: segments) ((followed, reached) :: hops)

variable {s : Store} {config : MatcherConfig} {segment : Segment} {segments : List Segment}
  {current reached : Node} {followed : Binding} {hops : List (Binding × Node)}

theorem Leads.length_eq (h : s.Leads config current segments hops) :
    hops.length = segments.length := by
  induction h with
  | nil => rfl
  | cons _ _ ih => exact congrArg (· + 1) ih

/-! ### Parts of the graph -/

/-- The parts of stored paths are stored. -/
theorem WellFormed.keeps_holds (h : s.WellFormed) (hop : RelationshipPattern) :
    hop.Keeps s.view fun p => s.Holds (.path p) := by
  rintro p tail e other n ⟨hnodes, hedges⟩ _ he _ _ hnode
  obtain rfl : n.id = other := h.id_of_node hnode
  refine ⟨fun m hm => ?_, fun f hf => ?_⟩
  · rcases List.mem_append.mp hm with hm | hm
    · exact hnodes m hm
    · exact List.mem_singleton.mp hm ▸ hnode
  · rcases List.mem_append.mp hf with hf | hf
    · exact hedges f hf
    · exact List.mem_singleton.mp hf ▸ ((h.mem_edgesToward s.view_shows).mp he).1

theorem WellFormed.expand_found (h : s.WellFormed) {start : Node}
    (hstart : s.node? start.id = some start) (hop : RelationshipPattern) (min max limit : Nat) :
    let found := (s.view.expand start hop min max limit).paths
    (∀ p ∈ found, s.Holds (.path p) ∧ (p.endId?).isSome) ∧ (found.map Path.endId?).Nodup := by
  refine s.view_shows.expand_found h (h.keeps_holds hop) ⟨fun n hn => ?_, fun e he => ?_⟩ min max
    limit
  · exact List.mem_singleton.mp hn ▸ hstart
  · exact (List.not_mem_nil he).elim

theorem Holds.end? {p : Path} (h : s.Holds (.path p)) {n : Node} (hn : p.end? = some n) :
    s.node? n.id = some n := h.1 n (List.mem_of_getLast? hn)

/-- What is followed from a stored node is stored, and so is the node it leads to. -/
theorem Follows.holds (h : s.WellFormed) (hcurrent : s.node? current.id = some current)
    (hfollows : s.Follows config segment current followed reached) :
    s.Holds followed ∧ s.node? reached.id = some reached := by
  cases hfollows with
  | edge _ he _ _ _ hn _ => exact ⟨he, hn⟩
  | path _ hp hend _ =>
    have hpath := ((h.expand_found hcurrent _ _ _ _).1 _ hp).1
    exact ⟨hpath, hpath.end? hend⟩

theorem Leads.holds (h : s.WellFormed) (hcurrent : s.node? current.id = some current)
    (hleads : s.Leads config current segments hops) :
    ∀ hop ∈ hops, s.Holds hop.1 ∧ s.Holds (.node hop.2) := by
  induction hleads with
  | nil => exact fun hop hhop => (List.not_mem_nil hhop).elim
  | cons hfollows _ ih =>
    have hholds := hfollows.holds h hcurrent
    intro hop hhop
    rcases List.mem_cons.mp hhop with rfl | hhop
    · exact hholds
    · exact ih hholds.2 hop hhop

/-- Lists whose elements are found under their keys are equal if their keys are. -/
theorem eq_of_map_eq {α κ : Type} {key : α → κ} {find : κ → Option α} {xs ys : List α}
    (hx : ∀ x ∈ xs, find (key x) = some x) (hy : ∀ y ∈ ys, find (key y) = some y)
    (h : xs.map key = ys.map key) : xs = ys := by
  have hback : ∀ {zs : List α}, (∀ z ∈ zs, find (key z) = some z) →
      (zs.map key).filterMap find = zs := by
    intro zs hz
    rw [List.filterMap_map]
    exact (List.filterMap_congr fun z hmem => hz z hmem).trans List.filterMap_some
  rw [← hback hx, h, hback hy]

/-- Stored elements of one identity are equal. -/
theorem Holds.eq_of_sameElement {x y : Binding} (hx : s.Holds x) (hy : s.Holds y)
    (hsame : x.identity = y.identity) : x = y := by
  cases x with
  | node n =>
    cases y with
    | node m =>
      have hid : n.id = m.id := ElementIdentity.node.inj hsame
      rw [Holds, hid] at hx
      exact congrArg _ (Option.some.inj (hx.symm.trans hy))
    | edge _ => cases hsame
    | path _ => cases hsame
  | edge e =>
    cases y with
    | edge f =>
      have hkey : e.key = f.key := ElementIdentity.edge.inj hsame
      rw [Holds, hkey] at hx
      exact congrArg _ (Option.some.inj (hx.symm.trans hy))
    | node _ => cases hsame
    | path _ => cases hsame
  | path p =>
    cases y with
    | path q =>
      obtain ⟨hids, hkeys⟩ := ElementIdentity.path.inj hsame
      have hnodes : p.nodes = q.nodes := eq_of_map_eq hx.1 hy.1 hids
      have hedges : p.edges = q.edges := eq_of_map_eq hx.2 hy.2 hkeys
      obtain ⟨pn, pe⟩ := p
      obtain ⟨qn, qe⟩ := q
      obtain rfl : pn = qn := hnodes
      obtain rfl : pe = qe := hedges
      rfl
    | node _ => cases hsame
    | edge _ => cases hsame

end Store

/-! ### Listing the ways -/

namespace GraphView

/-- What can be followed from a node along a segment, with the nodes it leads to. -/
def ways (v : GraphView) (config : MatcherConfig) (segment : Segment) (current : Node) :
    List (Binding × Node) :=
  if segment.1.isVariableLength then
    let (min, max) := segment.1.hopRange config.maxHops
    (v.expand current segment.1 min max config.maxResults).paths.filterMap fun p => do
      let reached ← p.end?
      if segment.2.accepts reached then some (.path p, reached) else none
  else
    (v.edgesToward current.id segment.1.direction).filterMap fun e => do
      if segment.1.accepts e then
        let reached ← v.node? (← e.otherNode? current.id)
        if segment.2.accepts reached then some (.edge e, reached) else none
      else none

/-- The choices that go on from others along segments. -/
def grow (v : GraphView) (config : MatcherConfig) (segments : List Segment)
    (choices : List Choice) : List Choice :=
  segments.foldl
    (fun choices segment =>
      choices.flatMap fun c => (v.ways config segment c.current).map c.concat) choices

end GraphView

namespace Store

variable {s : Store} {config : MatcherConfig} {segment : Segment} {segments : List Segment}
  {current reached : Node} {followed : Binding} {choices : List Choice}

theorem WellFormed.mem_ways (h : s.WellFormed) :
    (followed, reached) ∈ s.view.ways config segment current
      ↔ s.Follows config segment current followed reached := by
  unfold GraphView.ways
  split_ifs with hlength
  · simp only [List.mem_filterMap, Option.bind_eq_bind, Option.bind_eq_some_iff,
      Option.ite_none_right_eq_some, Option.some.injEq, Prod.mk.injEq]
    constructor
    · rintro ⟨p, hp, n, hend, hnode, rfl, rfl⟩
      exact .path hlength hp hend hnode
    · intro hfollows
      cases hfollows with
      | edge hedge _ _ _ _ _ _ => rw [hedge] at hlength; cases hlength
      | path _ hp hend hnode => exact ⟨_, hp, _, hend, hnode, rfl, rfl⟩
  · simp only [List.mem_filterMap, Option.bind_eq_bind, Option.bind_eq_some_iff,
      Option.ite_none_right_eq_some, Option.some.injEq, Prod.mk.injEq]
    constructor
    · rintro ⟨e, he, haccepts, other, hother, n, hn, hnode, rfl, rfl⟩
      obtain rfl : n.id = other := h.id_of_node hn
      obtain ⟨hstored, hdirection⟩ := (h.mem_edgesToward s.view_shows).mp he
      exact .edge (Bool.not_eq_true _ ▸ hlength) hstored hdirection haccepts hother hn hnode
    · intro hfollows
      cases hfollows with
      | edge _ he hdirection haccepts hother hn hnode =>
        exact ⟨_, (h.mem_edgesToward s.view_shows).mpr ⟨he, hdirection⟩, haccepts, _,
          hother, _, hn, hnode, rfl, rfl⟩
      | path hpath _ _ _ => exact (hlength hpath).elim

theorem WellFormed.nodup_ways (h : s.WellFormed) (hcurrent : s.node? current.id = some current) :
    (s.view.ways config segment current).Nodup := by
  unfold GraphView.ways
  split_ifs
  · have hpaths := List.Nodup.of_map _ (h.expand_found hcurrent segment.1
      (segment.1.hopRange config.maxHops).1 (segment.1.hopRange config.maxHops).2
      config.maxResults).2
    refine hpaths.filterMap fun p q way hp hq => ?_
    simp only [Option.mem_def, Option.bind_eq_bind, Option.bind_eq_some_iff,
      Option.ite_none_right_eq_some, Option.some.injEq] at hp hq
    obtain ⟨n, -, -, rfl⟩ := hp
    obtain ⟨m, -, -, heq⟩ := hq
    exact (Binding.path.inj (Prod.mk.inj heq).1).symm
  · refine (h.nodup_edgesToward s.view_shows _ _).filterMap fun e f way he hf => ?_
    simp only [Option.mem_def, Option.bind_eq_bind, Option.bind_eq_some_iff,
      Option.ite_none_right_eq_some, Option.some.injEq] at he hf
    obtain ⟨-, _, -, n, -, -, rfl⟩ := he
    obtain ⟨-, _, -, m, -, -, heq⟩ := hf
    exact (Binding.edge.inj (Prod.mk.inj heq).1).symm

/-- A grown choice is one from before with hops along the segments behind it. -/
theorem WellFormed.mem_grow (h : s.WellFormed) {c : Choice} :
    c ∈ s.view.grow config segments choices ↔
      ∃ c₀ ∈ choices, ∃ hops, s.Leads config c₀.current segments hops ∧ c = c₀.append hops := by
  induction segments generalizing choices with
  | nil =>
    refine ⟨fun hc => ⟨c, hc, [], .nil, c.append_nil.symm⟩, ?_⟩
    rintro ⟨c₀, hc₀, hops, hleads, rfl⟩
    cases hleads
    rwa [Choice.append_nil]
  | cons segment segments ih =>
    refine Iff.trans ih ?_
    simp only [List.mem_flatMap, List.mem_map]
    constructor
    · rintro ⟨c₁, ⟨c₀, hc₀, ⟨followed, reached⟩, hway, rfl⟩, hops, hleads, rfl⟩
      rw [Choice.current_concat] at hleads
      exact ⟨c₀, hc₀, (followed, reached) :: hops, .cons (h.mem_ways.mp hway) hleads,
        (c₀.append_cons _ hops).symm⟩
    · rintro ⟨c₀, hc₀, hops, hleads, rfl⟩
      cases hleads with
      | @cons _ reached _ _ followed hops hfollows hleads =>
        refine ⟨_, ⟨c₀, hc₀, (followed, reached), h.mem_ways.mpr hfollows, rfl⟩, hops, ?_,
          c₀.append_cons _ hops⟩
        rwa [Choice.current_concat]

/-- Growing repeats no choice. -/
theorem WellFormed.nodup_grow (h : s.WellFormed) (hchoices : choices.Nodup)
    (hcurrent : ∀ c ∈ choices, s.node? c.current.id = some c.current) :
    (s.view.grow config segments choices).Nodup := by
  induction segments generalizing choices with
  | nil => exact hchoices
  | cons segment segments ih =>
    refine ih ?_ fun c hc => ?_
    · rw [List.nodup_flatMap]
      refine ⟨fun c hc => ?_, List.Pairwise.imp (fun {c c'} hne => ?_) hchoices⟩
      · exact (h.nodup_ways (hcurrent c hc)).map fun hop hop' heq => (Choice.concat_injective heq).2
      · intro d hd hd'
        obtain ⟨hop, -, rfl⟩ := List.mem_map.mp hd
        obtain ⟨hop', -, heq⟩ := List.mem_map.mp hd'
        exact hne (Choice.concat_injective heq).1.symm
    · obtain ⟨c₀, hc₀, hc⟩ := List.mem_flatMap.mp hc
      obtain ⟨⟨followed, reached⟩, hway, rfl⟩ := List.mem_map.mp hc
      rw [Choice.current_concat]
      exact ((h.mem_ways.mp hway).holds h (hcurrent c₀ hc₀)).2

end Store

end PropertyGraph
