import Mathlib.Data.List.Perm.Basic
import PropertyGraph.Proofs.Pattern.PartialMatches
import PropertyGraph.Regex.Parser

/-!
# Soundness and completeness of matching

A partial match for a whole pattern stands for a choice whose named parts are consistent
(`Choice.partial?`).  So the results for a pattern correspond one to one to the choices that fit it
(`matchPattern_correct`), as long as no list of partial matches is cut.
-/

namespace PropertyGraph

section AnyEngine

variable {ρ : Type} [RegexEngine ρ]

namespace Choice

/-- The partial match that stands for a choice whose named parts are consistent. -/
def partial? (pattern : PathPattern) (c : Choice) : Option PartialMatch :=
  (Bindings.bindAll (c.named pattern)).map fun b =>
    ⟨b, c.current, c.hops.foldl (fun n hop => n + hop.1.hops) 0⟩

end Choice

/-! ### Results -/

/-- A list with the elements on which a function gives a result, and the list of the results. -/
theorem forall₂_filterMap {α β : Type} (f : α → Option β) (l : List α) :
    List.Forall₂ (fun a b => f a = some b) (l.filter fun a => (f a).isSome) (l.filterMap f) := by
  induction l with
  | nil => exact .nil
  | cons a rest ih =>
    rw [List.filter_cons, List.filterMap_cons]
    cases ha : f a with
    | none => exact ih
    | some b => exact .cons ha ih

/-- No list of partial matches on the way through the pattern comes up to the cap. -/
def PathPattern.HasRoom (pattern : PathPattern) (v : GraphView) (config : MatcherConfig) : Prop :=
  ∀ partials, v.starts config pattern.start {} = .ok partials →
    ∀ k, (v.extendAll config (pattern.segments.take k) partials).length < config.maxResults

namespace Choice

/-- The choice goes through the pattern: from a stored node that its start accepts, along what its
segments can follow, and with the same element wherever a variable comes up again. -/
structure Fits (s : Store) (config : MatcherConfig) (pattern : PathPattern) (c : Choice) : Prop where
  stored : s.node? c.start.id = some c.start
  accepted : pattern.start.accepts c.start
  leads : s.Leads config c.start pattern.segments c.hops
  consistent : Bindings.Consistent (c.named pattern)

/-- The result binds exactly the variables of the pattern, each to what is chosen for it. -/
structure Yields (pattern : PathPattern) (c : Choice) (m : Match) : Prop where
  names : m.bindings.names = pattern.variableNames
  find?_iff : ∀ name x, m.bindings.find? name = some x ↔ (name, x) ∈ c.named pattern

variable {s : Store} {config : MatcherConfig} {pattern : PathPattern} {c : Choice}

theorem mem_under {name : String} {x y : Binding} {given : Option String}
    (h : (name, x) ∈ y.under given) : x = y := by
  obtain ⟨_, -, heq⟩ := List.mem_map.mp h
  exact (Prod.mk.inj heq).2.symm

/-- All that a choice names is stored. -/
theorem holds_of_mem_named (hs : s.WellFormed) (hstart : s.node? c.start.id = some c.start)
    (hleads : s.Leads config c.start pattern.segments c.hops) {name : String} {x : Binding}
    (hx : (name, x) ∈ c.named pattern) : s.Holds x := by
  rcases List.mem_append.mp hx with hx | hx
  · exact mem_under hx ▸ hstart
  · obtain ⟨⟨segment, hop⟩, hzip, hx⟩ := List.mem_flatMap.mp hx
    have hhop := hleads.holds hs hstart hop (List.of_mem_zip hzip).2
    rcases List.mem_append.mp hx with hx | hx
    · exact mem_under hx ▸ hhop.1
    · exact mem_under hx ▸ hhop.2

/-- A partial match stands for the choice whose named parts it binds. -/
theorem yields_of_partial? (hs : s.WellFormed) (hstart : s.node? c.start.id = some c.start)
    (hleads : s.Leads config c.start pattern.segments c.hops) {p : PartialMatch}
    (hp : c.partial? pattern = some p) : c.Yields pattern (Match.ofPartial pattern p) := by
  obtain ⟨b, hb, rfl⟩ := Option.map_eq_some_iff.mp hp
  have hspec := Bindings.bindAll_spec (c.named pattern)
  rw [hb] at hspec
  obtain ⟨hconsistent, hreflects⟩ := hspec
  refine ⟨?_, fun name x => ⟨hreflects.mem_of_find?, fun hx => ?_⟩⟩
  · exact hreflects.names.trans (eraseDups_map_fst_named hleads.length_eq)
  · cases hfind : b.find? name with
    | none => exact (hreflects.find?_eq_none_iff.mp hfind x hx).elim
    | some y =>
      have hy := hreflects.mem_of_find? hfind
      have hsame := Binding.sameElement_iff.mp (hconsistent name y x hy hx)
      refine hfind.trans (congrArg some ?_)
      exact (holds_of_mem_named hs hstart hleads hy).eq_of_sameElement
        (holds_of_mem_named hs hstart hleads hx) hsame

end Choice

namespace Store

variable {s : Store}

/-- The choices that fit a pattern are those grown from its starts that have a partial match. -/
theorem WellFormed.fits_iff (hs : s.WellFormed) {config : MatcherConfig} {pattern : PathPattern}
    {nodes : List Node}
    (hnodes : ∀ n, n ∈ nodes ↔ s.node? n.id = some n ∧ pattern.start.accepts n) (c : Choice) :
    c ∈ (s.view.grow config pattern.segments (nodes.map fun n => ⟨n, []⟩)).filter
        (fun c => (c.partial? pattern).isSome) ↔ c.Fits s config pattern := by
  have hpartial : (c.partial? pattern).isSome ↔ Bindings.Consistent (c.named pattern) := by
    have hspec := Bindings.bindAll_spec (c.named pattern)
    unfold Choice.partial?
    rw [Option.isSome_map]
    cases hall : Bindings.bindAll (c.named pattern) with
    | none => rw [hall] at hspec; exact iff_of_false nofun hspec
    | some b => rw [hall] at hspec; exact iff_of_true rfl hspec.1
  rw [List.mem_filter, hs.mem_grow, hpartial]
  constructor
  · rintro ⟨⟨c₀, hc₀, hops, hleads, rfl⟩, hconsistent⟩
    obtain ⟨n, hn, rfl⟩ := List.mem_map.mp hc₀
    exact ⟨((hnodes n).mp hn).1, ((hnodes n).mp hn).2, hleads, hconsistent⟩
  · intro h
    have hstart := (hnodes c.start).mpr ⟨h.stored, h.accepted⟩
    exact ⟨⟨⟨c.start, []⟩, List.mem_map_of_mem hstart, c.hops, h.leads, rfl⟩, h.consistent⟩

/-- Ranking the results of choices puts the choices in another order. -/
theorem WellFormed.ranked_yields (hs : s.WellFormed) {config : MatcherConfig}
    {pattern : PathPattern} {choices : List Choice}
    (hfits : ∀ c ∈ choices.filter (fun c => (c.partial? pattern).isSome),
      c.Fits s config pattern) :
    ∃ order, (choices.filter fun c => (c.partial? pattern).isSome).Perm order ∧
      List.Forall₂ (Choice.Yields pattern) order
        (Match.ranked ((choices.filterMap (·.partial? pattern)).map (Match.ofPartial pattern))) := by
  have hmatches : List.Forall₂ (fun c p => c.Fits s config pattern ∧ c.partial? pattern = some p)
      (choices.filter fun c => (c.partial? pattern).isSome)
      (choices.filterMap (·.partial? pattern)) :=
    (List.forall₂_and_left _ _).mpr ⟨hfits, forall₂_filterMap (fun c => c.partial? pattern) choices⟩
  have hyields : List.Forall₂ (Choice.Yields pattern)
      (choices.filter fun c => (c.partial? pattern).isSome)
      ((choices.filterMap (·.partial? pattern)).map (Match.ofPartial pattern)) :=
    List.forall₂_map_right_iff.mpr <| hmatches.imp fun c p ⟨hc, hp⟩ =>
      Choice.yields_of_partial? hs hc.stored hc.leads hp
  have hranked : ((choices.filterMap (·.partial? pattern)).map (Match.ofPartial pattern)).Perm
      (Match.ranked _) := (stableSort_perm _ _).symm
  have hcomp : Relation.Comp (List.Forall₂ (Choice.Yields pattern)) List.Perm
      (choices.filter fun c => (c.partial? pattern).isSome) _ := ⟨_, hyields, hranked⟩
  rwa [List.forall₂_comp_perm_eq_perm_comp_forall₂] at hcomp

/-- Matching a pattern gives one result for each choice that fits it, and no others. -/
theorem matchPattern_correct (hs : s.Reachable)
    (hlabels : ∀ id n, s.node? id = some n → n.labels.Nodup) (config : MatcherConfig)
    (pattern : PathPattern) (hroom : pattern.HasRoom s.view config) :
    ∃ results, s.view.matchPattern config pattern {} = .ok results ∧
      ∃ choices : List Choice, choices.Nodup ∧
        (∀ c, c ∈ choices ↔ c.Fits s config pattern) ∧
        List.Forall₂ (Choice.Yields pattern) choices results := by
  have hwell := hs.wellFormed
  have hmatch : s.view.matchPattern config pattern {}
      = .ok (Match.ranked (((s.view.choices config pattern).filterMap (·.partial? pattern)).map
          (Match.ofPartial pattern))) := hs.matchPattern_eq hlabels hroom
  refine ⟨_, hmatch, ?_⟩
  have hfits : ∀ c, c ∈ (s.view.choices config pattern).filter
      (fun c => (c.partial? pattern).isSome) ↔ c.Fits s config pattern :=
    hwell.fits_iff fun n => hs.mem_startNodes
  obtain ⟨choices, hperm, hyields⟩ := hwell.ranked_yields fun c hc => (hfits c).mp hc
  refine ⟨choices, hperm.nodup_iff.mp ((hwell.nodup_grow ?_ fun c hc => ?_).filter _), fun c => ?_,
    hyields⟩
  · exact (hs.nodup_startNodes hlabels pattern.start).map fun n m heq => (Choice.mk.inj heq).1
  · obtain ⟨n, hn, rfl⟩ := List.mem_map.mp hc
    exact (hs.mem_startNodes.mp hn).1
  · rw [← hperm.mem_iff]
    exact hfits c

end Store

end AnyEngine

namespace Store

/-- A person, someone that the person knows, and a path from there back to the person. -/
def acquaintancePattern : PathPattern where
  start := { name := some "x", labels := ["Person"] }
  segments := [({ name := some "r", types := ["knows"] }, { name := some "y" }),
    ({ name := some "p", direction := .both, minHops := some 1 }, { name := some "x" })]

theorem nodup_labels_pair : ∀ id n, pair.node? id = some n → n.labels.Nodup := by
  intro id n hn
  have hid : n.id = id := reachable_pair.wellFormed.id_of_node hn
  have hall : ∀ n ∈ pair.allNodes, n.labels.Nodup := by decide +kernel
  exact hall n (reachable_pair.wellFormed.mem_allNodes.mpr (hid ▸ hn))

theorem acquaintancePattern_hasRoom : acquaintancePattern.HasRoom pair.view {} := by
  intro partials hstarts k
  obtain rfl := Except.ok.inj hstarts
  match k with
  | 0 => decide +kernel
  | 1 => decide +kernel
  | k + 2 =>
    have hall : acquaintancePattern.segments.take (k + 2) = acquaintancePattern.segments :=
      List.take_of_length_le (Nat.le_add_left 2 k)
    rw [hall]
    decide +kernel

theorem matchPattern_acquaintances :
    ∃ results, pair.view.matchPattern {} acquaintancePattern {} = .ok results ∧
      results.length = 1 ∧
      ∃ choices : List Choice, choices.Nodup ∧
        (∀ c, c ∈ choices ↔ c.Fits pair {} acquaintancePattern) ∧
        List.Forall₂ (Choice.Yields acquaintancePattern) choices results := by
  obtain ⟨results, hmatch, hchoices⟩ := matchPattern_correct reachable_pair nodup_labels_pair {}
    acquaintancePattern acquaintancePattern_hasRoom
  have hlength : (pair.view.matchPattern {} acquaintancePattern {}).toOption.map List.length
      = some 1 := by decide +kernel
  rw [hmatch] at hlength
  exact ⟨results, hmatch, Option.some.inj hlength, hchoices⟩

end Store

end PropertyGraph
