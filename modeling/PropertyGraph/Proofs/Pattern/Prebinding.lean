import PropertyGraph.Proofs.Pattern.Matching

/-!
# Variables that are bound from the start

Matching with bindings from the start goes another way than matching without: the start of the pattern is
looked up if its variable is bound, and not scanned for.  Both go through the same choices
(`Reachable.matchPattern_bindings`), so bindings from the start do to the results what leaving out those
that disagree with them does (`matchPattern_initial`).
-/

namespace PropertyGraph

section AnyEngine

variable {ρ : Type} [RegexEngine ρ]

namespace Store

variable {s : Store} {config : MatcherConfig} {pattern : PathPattern} {initial : Bindings}

/-- Where no list is cut, matching binds the variables of each choice beside those that are bound from the
start, where it can. -/
theorem Reachable.matchPattern_bindings (hs : s.Reachable)
    (hlabels : ∀ id n, s.node? id = some n → n.labels.Nodup)
    (hroom : pattern.HasRoomFrom s.view config initial) :
    ∃ results, s.view.matchPattern config pattern { initial } = .ok results ∧
      (results.map Match.bindings).Perm
        ((s.view.choices config pattern).filterMap fun c => initial.bindMore (c.named pattern)) := by
  refine ⟨_, hs.matchPattern_eq hlabels hroom, ?_⟩
  refine (Match.map_bindings_ranked _ _).trans (List.Perm.of_eq ?_)
  rw [List.map_filterMap]
  refine List.filterMap_congr fun c _ => ?_
  unfold Choice.partialFrom?
  rw [Option.map_map]
  exact Option.map_id'

/-- **Binding variables from the start.**  Let no node of the store name a label twice, and let no list of
partial matches come up to the cap where nothing is bound from the start.  Matching a pattern with any
bindings from the start, whatever they bind and to whatever, gives the results of matching it without
that agree with these bindings on what both bind; each time with what is bound from the start, and else
with what the result binds. -/
theorem matchPattern_initial (hs : s.Reachable)
    (hlabels : ∀ id n, s.node? id = some n → n.labels.Nodup) (config : MatcherConfig)
    (pattern : PathPattern) (hroom : pattern.HasRoom s.view config) (initial : Bindings) :
    ∃ bound free, s.view.matchPattern config pattern { initial } = .ok bound ∧
      s.view.matchPattern config pattern {} = .ok free ∧
      (bound.map fun m => m.bindings.find?).Perm
        ((free.filter fun m => initial.agrees m.bindings).map fun m name =>
          (initial.find? name).or (m.bindings.find? name)) := by
  obtain ⟨free, hfree, hfreeBindings⟩ :=
    hs.matchPattern_bindings hlabels (show pattern.HasRoomFrom s.view config {} from hroom)
  obtain ⟨bound, hbound, hboundBindings⟩ :=
    hs.matchPattern_bindings hlabels (hs.hasRoomFrom hlabels hroom initial)
  refine ⟨bound, free, hbound, hfree, ?_⟩
  let added : Bindings → Option (String → Option Binding) := fun others =>
    if initial.agrees others then some fun name => (initial.find? name).or (others.find? name)
    else none
  have hleft : (bound.map fun m => m.bindings.find?).Perm
      ((s.view.choices config pattern).filterMap fun c =>
        (Bindings.bindAll (c.named pattern)).bind added) := by
    have hmap := hboundBindings.map Bindings.find?
    rw [List.map_map, List.map_filterMap] at hmap
    refine hmap.trans (List.Perm.of_eq (List.filterMap_congr fun c _ => ?_))
    exact Bindings.map_find?_bindMore initial (c.named pattern)
  have hright : (free.filterMap fun m => added m.bindings).Perm
      ((s.view.choices config pattern).filterMap fun c =>
        (Bindings.bindAll (c.named pattern)).bind added) := by
    have hmap := hfreeBindings.filterMap added
    rw [List.filterMap_map, List.filterMap_filterMap] at hmap
    exact hmap
  refine (hleft.trans hright.symm).trans (List.Perm.of_eq ?_)
  rw [← List.filterMap_eq_map, List.filterMap_filter]
  rfl

end Store

end AnyEngine

namespace Store

/-- A person who is bound to the start as a node that has changed since. -/
def staleStart : Bindings := { entries := [("x", .node ⟨"a", [], .empty⟩)] }

theorem matchPattern_staleStart :
    ∃ bound free, pair.view.matchPattern {} acquaintancePattern { initial := staleStart } = .ok bound ∧
      pair.view.matchPattern {} acquaintancePattern {} = .ok free ∧ bound.length = 1 ∧
      (bound.map fun m => m.bindings.find?).Perm
        ((free.filter fun m => staleStart.agrees m.bindings).map fun m name =>
          (staleStart.find? name).or (m.bindings.find? name)) := by
  obtain ⟨bound, free, hbound, hfree, hperm⟩ := matchPattern_initial reachable_pair nodup_labels_pair {}
    acquaintancePattern acquaintancePattern_hasRoom staleStart
  have hlength : (pair.view.matchPattern {} acquaintancePattern
      { initial := staleStart }).toOption.map List.length = some 1 := by decide +kernel
  rw [hbound] at hlength
  exact ⟨bound, free, hbound, hfree, Option.some.inj hlength, hperm⟩

end Store

end PropertyGraph
