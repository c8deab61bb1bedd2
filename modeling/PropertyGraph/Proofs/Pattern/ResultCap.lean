import PropertyGraph.Proofs.Pattern.PartialMatches
import PropertyGraph.Proofs.Pattern.Truncation

/-!
# The cap on results

Matching a pattern of one segment from a start that is bound keeps all matches if there are no more than
its cap, where the segment is a single edge.  Where it is a path of several hops the cap also limits the
expansion, and this counts the paths before the nodes at their ends are looked at.  Matches are then lost
that only later paths lead to, and no others (`GraphView.matchPattern_capped`).  So a cap can hide the
only match there is (`Store.matchPattern_hides`).
-/

namespace PropertyGraph

section AnyEngine

variable {ρ : Type} [RegexEngine ρ]

/-- The paths from a node over the range of a hop, up to the cap. -/
def GraphView.pathsFrom (v : GraphView) (config : MatcherConfig) (hop : RelationshipPattern) (n : Node) :
    List Path :=
  (v.expand n hop (hop.hopRange config.maxHops).1 (hop.hopRange config.maxHops).2
    config.maxResults).paths

namespace PartialMatch

variable {v : GraphView} {config : MatcherConfig} {p : PartialMatch} {hop : RelationshipPattern}
  {node : NodePattern}

/-- The extension of a partial match by a path, if the pattern accepts the node at its end and nothing is
bound to something else. -/
def alongPath? (p : PartialMatch) (hop : RelationshipPattern) (node : NodePattern) (path : Path) :
    Option PartialMatch :=
  path.end?.bind fun reached => p.step? hop node (.path path) reached path.length

theorem extensions_of_edges (hlength : hop.isVariableLength = false) :
    p.extensions v config (hop, node) = p.alongEdges v hop node := by
  unfold extensions
  rw [if_neg (by simp [hlength])]

theorem extensions_of_paths (hlength : hop.isVariableLength) :
    p.extensions v config (hop, node)
      = (v.pathsFrom config hop p.current).filterMap (p.alongPath? hop node) := by
  unfold extensions
  rw [if_pos hlength]
  rfl

/-- **What a cap hides.**  Beside a cap that no expansion comes up to, another one cuts those extensions
off that later paths than the first ones lead to, and none that single edges lead to. -/
theorem extensions_capped (v : GraphView) (config : MatcherConfig) (p : PartialMatch)
    (hop : RelationshipPattern) (node : NodePattern) (cap : Nat)
    (hlarge : hop.isVariableLength →
      (v.pathsFrom config hop p.current).length < config.maxResults) :
    ∃ hidden, p.extensions v config (hop, node)
        = p.extensions v { config with maxResults := cap } (hop, node) ++ hidden ∧
      (hidden = [] ↔ (hop.isVariableLength →
        ∀ path ∈ (v.pathsFrom config hop p.current).drop
            (Search.cutoff cap (hop.hopRange config.maxHops).1),
          p.alongPath? hop node path = none)) := by
  cases hlength : hop.isVariableLength with
  | false =>
    refine ⟨[], ?_, iff_of_true rfl (fun h => by cases h)⟩
    rw [extensions_of_edges hlength, extensions_of_edges hlength, List.append_nil]
  | true =>
    have hcut : v.pathsFrom { config with maxResults := cap } hop p.current
        = (v.pathsFrom config hop p.current).take
            (Search.cutoff cap (hop.hopRange config.maxHops).1) :=
      v.expand_cutoff p.current hop _ _ cap (hlarge hlength)
    rw [extensions_of_paths hlength, extensions_of_paths hlength, hcut]
    set paths := v.pathsFrom config hop p.current
    set first := Search.cutoff cap (hop.hopRange config.maxHops).1
    refine ⟨(paths.drop first).filterMap (p.alongPath? hop node), ?_, ?_⟩
    · rw [← List.filterMap_append, List.take_append_drop]
    · rw [List.filterMap_eq_nil_iff]
      exact ⟨fun h _ => h, fun h => h rfl⟩

end PartialMatch

namespace Match

theorem length_ranked (results : List Match) : (ranked results).length = results.length :=
  (stableSort_perm _ _).length_eq

/-- Ranking fewer results gives the same only if none is left out. -/
theorem ranked_eq_iff {kept hidden : List Match} :
    ranked kept = ranked (kept ++ hidden) ↔ hidden = [] := by
  constructor
  · intro heq
    have hlength := congrArg List.length heq
    rw [length_ranked, length_ranked, List.length_append] at hlength
    exact List.length_eq_zero_iff.mp (by omega)
  · rintro rfl
    rw [List.append_nil]

theorem ranked_subperm {kept hidden : List Match} :
    (ranked kept).Subperm (ranked (kept ++ hidden)) := by
  have hkept : (ranked kept).Perm kept := stableSort_perm _ _
  have hall : (ranked (kept ++ hidden)).Perm (kept ++ hidden) := stableSort_perm _ _
  rw [hkept.subperm_right, hall.subperm_left]
  exact (List.sublist_append_left kept hidden).subperm

end Match

namespace GraphView

variable {v : GraphView} {config : MatcherConfig} {start node : NodePattern}
  {hop : RelationshipPattern} {initial : Bindings}

/-- A start that is bound is looked up. -/
theorem starts_of_bound {name : String} {bound n : Node} (hname : start.name = some name)
    (hbound : initial.find? name = some (.node bound)) (hn : v.node? bound.id = some n) :
    v.starts config start initial = .ok (if start.accepts n then [⟨initial, n, 0⟩] else []) := by
  have hvariable : start.name.bind initial.find? = some (.node bound) := by
    rw [hname]
    exact hbound
  have hnow : (((Binding.node bound).node?.bind fun n => v.node? n.id).filter start.accepts)
      = if start.accepts n then some n else none := by
    show ((v.node? bound.id).filter start.accepts) = _
    rw [hn]
    rfl
  unfold starts
  rw [hvariable]
  dsimp only
  rw [hnow]
  split_ifs <;> rfl

/-- Matching a pattern of one segment ranks the extensions of its starts. -/
theorem matchPattern_segment {partials : List PartialMatch} (segment : Segment)
    (hstarts : v.starts config start initial = .ok partials) :
    v.matchPattern config ⟨start, [segment]⟩ { initial }
      = .ok (Match.ranked (((partials.flatMap (·.extensions v config segment)).take
          config.maxResults).map (Match.ofPartial ⟨start, [segment]⟩))) := by
  unfold matchPattern
  rw [hstarts]
  rfl

/-- **What the cap on results hides.**  Let the start of a pattern of one segment be bound to a node, and
let no list come up to the cap: neither the paths of an expansion nor the results.  Under another cap that
there are no more results than, matching gives no other results.  It gives the same ones just if no result
comes from a path behind the first ones, as many as an expansion under this cap finds; so it always does
where the segment is a single edge. -/
theorem matchPattern_capped (v : GraphView) (config : MatcherConfig) (start : NodePattern)
    (hop : RelationshipPattern) (node : NodePattern) (initial : Bindings) {name : String}
    {bound n : Node} (hname : start.name = some name)
    (hbound : initial.find? name = some (.node bound)) (hn : v.node? bound.id = some n)
    (hlarge : hop.isVariableLength → (v.pathsFrom config hop n).length < config.maxResults)
    (cap : Nat) :
    ∃ results capped,
      v.matchPattern config ⟨start, [(hop, node)]⟩ { initial } = .ok results ∧
      v.matchPattern { config with maxResults := cap } ⟨start, [(hop, node)]⟩ { initial }
        = .ok capped ∧
      (results.length < config.maxResults → results.length ≤ cap →
        capped.Subperm results ∧
        (capped = results ↔ (start.accepts n → hop.isVariableLength →
          ∀ path ∈ (v.pathsFrom config hop n).drop
              (Search.cutoff cap (hop.hopRange config.maxHops).1),
            PartialMatch.alongPath? ⟨initial, n, 0⟩ hop node path = none))) := by
  have hstarts : ∀ config : MatcherConfig, v.starts config start initial
      = .ok (if start.accepts n then [⟨initial, n, 0⟩] else []) :=
    fun config => starts_of_bound hname hbound hn
  refine ⟨_, _, matchPattern_segment _ (hstarts _), matchPattern_segment _ (hstarts _), ?_⟩
  intro hroom hfew
  rw [Match.length_ranked, List.length_map, List.length_take] at hroom hfew
  by_cases haccepts : start.accepts n
  · simp only [if_pos haccepts, List.flatMap_singleton] at hroom hfew ⊢
    obtain ⟨hidden, hall, hnone⟩ :=
      PartialMatch.extensions_capped v config ⟨initial, n, 0⟩ hop node cap hlarge
    rw [hall, List.length_append] at hroom hfew
    rw [hall]
    -- neither list comes up to its cap
    rw [List.take_of_length_le (by omega), List.take_of_length_le (by rw [List.length_append]; omega),
      List.map_append]
    refine ⟨Match.ranked_subperm, ?_⟩
    rw [Match.ranked_eq_iff, List.map_eq_nil_iff, hnone]
    exact ⟨fun h _ => h, fun h => h haccepts⟩
  · simp only [if_neg haccepts, List.flatMap_nil, List.take_nil]
    exact ⟨List.Subperm.refl _, iff_of_true trivial fun h => absurd h haccepts⟩

end GraphView

end AnyEngine

namespace Store

/-! ### Cities around a cycle -/

/-- A path to a city, `(x)-[*1..]->(:City)`. -/
def cityPattern : PathPattern where
  start := { name := some "x" }
  segments := [({ minHops := some 1 }, { labels := ["City"] })]

/-- The first node of the cycle as the start of a path. -/
def fromFirst : Bindings := { entries := [("x", .node ⟨"a", [], .empty⟩)] }

/-- From the first node of the cycle the only city can be found. -/
theorem matchPattern_city :
    ∃ results, cycle.view.matchPattern {} cityPattern { initial := fromFirst } = .ok results ∧
      results.length = 1 := by
  have hone : (cycle.view.matchPattern {} cityPattern { initial := fromFirst }).toOption.map
      List.length = some 1 := by decide +kernel
  cases hresults : cycle.view.matchPattern {} cityPattern { initial := fromFirst } with
  | error e => rw [hresults] at hone; cases hone
  | ok results =>
    rw [hresults] at hone
    exact ⟨results, rfl, Option.some.inj hone⟩

/-- With a cap of two the search comes to the city, which is two hops away. -/
theorem matchPattern_capped_city :
    ∃ results capped, cycle.view.matchPattern {} cityPattern { initial := fromFirst } = .ok results ∧
      results.length = 1 ∧
      cycle.view.matchPattern { maxResults := 2 } cityPattern { initial := fromFirst } = .ok capped ∧
      capped = results := by
  have hpaths : (cycle.view.pathsFrom {} { minHops := some 1 } ⟨"a", [], .empty⟩).length = 2 := by
    decide +kernel
  have hlarge : (cycle.view.pathsFrom {} { minHops := some 1 } ⟨"a", [], .empty⟩).length
      < ({} : MatcherConfig).maxResults := by
    rw [hpaths]
    decide
  have hbound : fromFirst.find? "x" = some (.node ⟨"a", [], .empty⟩) := rfl
  have hstored : cycle.view.node? "a" = some ⟨"a", [], .empty⟩ := rfl
  obtain ⟨results, capped, hresults, hcapped, hspec⟩ := cycle.view.matchPattern_capped {}
    { name := some "x" } { minHops := some 1 } { labels := ["City"] } fromFirst rfl hbound hstored
    (fun _ => hlarge) 2
  obtain ⟨results', hresults', hone⟩ := matchPattern_city
  obtain rfl : results' = results := Except.ok.inj (hresults'.symm.trans hresults)
  obtain ⟨-, hsame⟩ := hspec (by rw [hone]; decide) (by omega)
  refine ⟨results', capped, hresults', hone, hcapped, hsame.mpr fun _ _ path hpath => ?_⟩
  -- both paths are among the first
  have hdrop := List.drop_eq_nil_of_le (Nat.le_of_eq hpaths)
  rw [show Search.cutoff 2 _ = 2 from rfl, hdrop] at hpath
  exact (List.not_mem_nil hpath).elim

/-- With a cap of one the search ends at the node before the city, and the only match is lost. -/
theorem matchPattern_hides :
    cycle.Reachable ∧ cycle.node? "a" = some ⟨"a", [], .empty⟩ ∧
      ∃ results capped, cycle.view.matchPattern {} cityPattern { initial := fromFirst } = .ok results ∧
        results.length = 1 ∧
        cycle.view.matchPattern { maxResults := 1 } cityPattern { initial := fromFirst } = .ok capped ∧
        capped ≠ results := by
  obtain ⟨results, hresults, hone⟩ := matchPattern_city
  have hnone : (cycle.view.matchPattern { maxResults := 1 } cityPattern
      { initial := fromFirst }).toOption.map List.length = some 0 := by decide +kernel
  cases hcapped : cycle.view.matchPattern { maxResults := 1 } cityPattern { initial := fromFirst } with
  | error e => rw [hcapped] at hnone; cases hnone
  | ok capped =>
    rw [hcapped] at hnone
    refine ⟨reachable_cycle, rfl, results, capped, hresults, hone, rfl, fun hsame => ?_⟩
    have hlength : capped.length = 0 := Option.some.inj hnone
    rw [hsame, hone] at hlength
    cases hlength

end Store

end PropertyGraph
