import Mathlib.Data.List.Flatten
import PropertyGraph.Pattern.Matching
import PropertyGraph.Proofs.Pattern.Choices
import PropertyGraph.Proofs.Pattern.Merging
import PropertyGraph.Proofs.Store.Labels

/-!
# Partial matches

A partial match stands for a choice for the segments so far whose named parts can be bound beside the
bindings that matching started from (`Choice.partialFrom?`).  Extending partial matches by segments is
growing the choices that they stand for (`extendFreely_eq`).  The cap on lists of partial matches only
shortens them (`extendAll_sublist`), and where it is not reached it does nothing
(`extendAll_eq_extendFreely`).  So matching gives the partial matches of all choices
(`Reachable.matchPattern_eq`).
-/

namespace PropertyGraph

variable {ρ : Type} [RegexEngine ρ]

/-! ### Named parts of a choice -/

namespace Binding

/-- The element under its name, if it has one. -/
def under (name : Option String) (x : Binding) : List (String × Binding) :=
  name.toList.map fun name => (name, x)

/-- The number of edges followed. -/
def hops : Binding → Nat
  | .node _ => 0
  | .edge _ => 1
  | .path p => p.length

theorem foldlM_under (name : Option String) (x : Binding) (b : Bindings) :
    (x.under name).foldlM (fun b e => b.bind? (some e.1) e.2) b = b.bind? name x := by
  cases name with
  | none => rfl
  | some name => exact bind_pure _

theorem map_fst_under (name : Option String) (x : Binding) :
    (x.under name).map Prod.fst = name.toList := by
  cases name <;> rfl

end Binding

namespace Choice

/-- What is chosen for the variables of a hop and of the node behind it. -/
def namedHop (segment : Segment) (hop : Binding × Node) : List (String × Binding) :=
  hop.1.under segment.1.name ++ (Binding.node hop.2).under segment.2.name

/-- What is chosen for the variables of a pattern, in their order. -/
def named (pattern : PathPattern) (c : Choice) : List (String × Binding) :=
  (Binding.node c.start).under pattern.start.name
    ++ (pattern.segments.zip c.hops).flatMap fun e => namedHop e.1 e.2

variable {start : NodePattern} {segments : List Segment} {c : Choice}

theorem named_concat (hlength : c.hops.length = segments.length) (segment : Segment)
    (hop : Binding × Node) :
    (c.concat hop).named ⟨start, segments ++ [segment]⟩
      = c.named ⟨start, segments⟩ ++ namedHop segment hop := by
  unfold named concat append
  dsimp only
  rw [List.zip_append hlength.symm, List.flatMap_append, List.append_assoc]
  simp only [List.zip_cons_cons, List.zip_nil_left, List.flatMap_singleton]

/-- The variables of a pattern come in the order of its parts. -/
theorem eraseDups_map_fst_named {pattern : PathPattern}
    (hlength : c.hops.length = pattern.segments.length) :
    ((c.named pattern).map Prod.fst).eraseDups = pattern.variableNames := by
  have hhops : ∀ {segments : List Segment} {hops : List (Binding × Node)},
      hops.length = segments.length →
      ((segments.zip hops).flatMap fun e => namedHop e.1 e.2).map Prod.fst
        = segments.flatMap fun segment => segment.1.name.toList ++ segment.2.name.toList := by
    intro segments hops hlength
    rw [List.map_flatMap]
    conv_rhs => rw [← List.map_fst_zip (Nat.le_of_eq hlength.symm), List.flatMap_map]
    refine List.flatMap_congr fun e _ => ?_
    unfold namedHop
    rw [List.map_append, Binding.map_fst_under, Binding.map_fst_under]
  unfold named PathPattern.variableNames
  rw [List.map_append, Binding.map_fst_under, hhops hlength]

/-- The partial match that stands for a choice whose named parts can be bound beside others. -/
def partialFrom? (initial : Bindings) (pattern : PathPattern) (c : Choice) : Option PartialMatch :=
  (initial.bindMore (c.named pattern)).map fun b =>
    ⟨b, c.current, c.hops.foldl (fun n hop => n + hop.1.hops) 0⟩

end Choice

/-! ### Extending partial matches -/

namespace PartialMatch

/-- Goes on along a hop of a segment, unless a variable is bound to something else. -/
def take? (p : PartialMatch) (segment : Segment) (hop : Binding × Node) : Option PartialMatch := do
  let bindings ← p.bindings.bind? segment.1.name hop.1
  let bindings ← bindings.bind? segment.2.name (.node hop.2)
  return ⟨bindings, hop.2, p.hops + hop.1.hops⟩

/-- Going on binds what the hop names. -/
theorem take?_eq (p : PartialMatch) (segment : Segment) (hop : Binding × Node) :
    p.take? segment hop = (p.bindings.bindMore (Choice.namedHop segment hop)).map fun b =>
      ⟨b, hop.2, p.hops + hop.1.hops⟩ := by
  have hhop : p.bindings.bindMore (Choice.namedHop segment hop)
      = (p.bindings.bind? segment.1.name hop.1).bind
          (·.bind? segment.2.name (.node hop.2)) := by
    unfold Choice.namedHop
    rw [Bindings.bindMore_append]
    exact congrArg₂ Option.bind (Binding.foldlM_under ..)
      (funext fun b => Binding.foldlM_under ..)
  rw [hhop]
  unfold take?
  cases p.bindings.bind? segment.1.name hop.1 with
  | none => rfl
  | some b => exact Option.map_eq_bind.symm

/-- The extensions of a partial match are along the ways that the segment can take. -/
theorem extensions_eq (v : GraphView) (config : MatcherConfig) (segment : Segment)
    (p : PartialMatch) :
    p.extensions v config segment = (v.ways config segment p.current).filterMap (p.take? segment) := by
  unfold extensions GraphView.ways
  split_ifs
  · unfold alongPaths
    dsimp only
    rw [List.filterMap_filterMap]
    refine List.filterMap_congr fun path _ => ?_
    cases path.end? with
    | none => rfl
    | some reached =>
      simp only [Option.bind_eq_bind, Option.bind_some, step?]
      split_ifs <;> rfl
  · unfold alongEdges
    rw [List.filterMap_filterMap]
    refine List.filterMap_congr fun e _ => ?_
    split_ifs
    · cases e.otherNode? p.current.id with
      | none => rfl
      | some other =>
        cases hn : v.node? other with
        | none => simp only [Option.bind_eq_bind, Option.bind_some, hn, Option.bind_none]
        | some reached =>
          simp only [Option.bind_eq_bind, Option.bind_some, hn, step?]
          split_ifs <;> rfl
    · rfl

end PartialMatch

namespace Choice

/-- The start of a pattern alone binds its variable, if it has one. -/
theorem partialFrom?_start (initial : Bindings) (start : NodePattern) (n : Node) :
    (Choice.mk n []).partialFrom? initial ⟨start, []⟩
      = (initial.bind? start.name (.node n)).map fun b => ⟨b, n, 0⟩ := by
  unfold partialFrom? named
  dsimp only
  rw [List.zip_nil_left, List.flatMap_nil, List.append_nil]
  exact congrArg (Option.map _) (Binding.foldlM_under ..)

theorem partialFrom?_concat (initial : Bindings) {start : NodePattern} {segments : List Segment}
    {c : Choice} (hlength : c.hops.length = segments.length) (segment : Segment)
    (hop : Binding × Node) :
    (c.concat hop).partialFrom? initial ⟨start, segments ++ [segment]⟩
      = (c.partialFrom? initial ⟨start, segments⟩).bind fun p => p.take? segment hop := by
  unfold partialFrom?
  rw [named_concat hlength, Bindings.bindMore_append]
  cases initial.bindMore (c.named ⟨start, segments⟩) with
  | none => rfl
  | some b =>
    have hhops : (c.concat hop).hops.foldl (fun n hop => n + hop.1.hops) 0
        = c.hops.foldl (fun n hop => n + hop.1.hops) 0 + hop.1.hops := List.foldl_append
    rw [Option.bind_some, hhops, current_concat, Option.map_some, Option.bind_some,
      PartialMatch.take?_eq]

end Choice

namespace GraphView

variable {v : GraphView} {config : MatcherConfig} {start : NodePattern} {segments : List Segment}
  {initial : Bindings}

/-- Extends partial matches by segments one after the other, without a cap. -/
def extendFreely (v : GraphView) (config : MatcherConfig) (segments : List Segment)
    (partials : List PartialMatch) : List PartialMatch :=
  segments.foldl (fun partials segment => partials.flatMap (·.extensions v config segment)) partials

/-- Extending the partial matches of choices gives those of the choices that grow from them. -/
theorem flatMap_extensions {choices : List Choice}
    (hlength : ∀ c ∈ choices, c.hops.length = segments.length) (segment : Segment) :
    (choices.filterMap (·.partialFrom? initial ⟨start, segments⟩)).flatMap
        (·.extensions v config segment)
      = (v.grow config [segment] choices).filterMap
          (·.partialFrom? initial ⟨start, segments ++ [segment]⟩) := by
  unfold grow
  rw [List.foldl_cons, List.foldl_nil, List.filterMap_flatMap]
  induction choices with
  | nil => rfl
  | cons c rest ih =>
    have hgrown : ((v.ways config segment c.current).map c.concat).filterMap
        (·.partialFrom? initial ⟨start, segments ++ [segment]⟩)
          = (v.ways config segment c.current).filterMap
              fun hop => (c.partialFrom? initial ⟨start, segments⟩).bind fun p => p.take? segment hop := by
      rw [List.filterMap_map]
      exact List.filterMap_congr fun hop _ =>
        Choice.partialFrom?_concat initial (hlength c List.mem_cons_self) segment hop
    rw [List.flatMap_cons, hgrown, ← ih fun c' hc' => hlength c' (List.mem_cons_of_mem c hc'),
      List.filterMap_cons]
    cases hp : c.partialFrom? initial ⟨start, segments⟩ with
    | none => simp only [Option.bind_none, List.filterMap_none, List.nil_append]
    | some p =>
      have hcurrent : p.current = c.current := by
        obtain ⟨b, -, rfl⟩ := Option.map_eq_some_iff.mp hp
        rfl
      rw [List.flatMap_cons, p.extensions_eq, hcurrent]
      rfl

/-- The partial matches behind all segments are those of the grown choices. -/
theorem extendFreely_eq (before segments : List Segment) {choices : List Choice}
    (hlength : ∀ c ∈ choices, c.hops.length = before.length) :
    v.extendFreely config segments (choices.filterMap (·.partialFrom? initial ⟨start, before⟩))
      = (v.grow config segments choices).filterMap
          (·.partialFrom? initial ⟨start, before ++ segments⟩) := by
  induction segments generalizing before choices with
  | nil => rw [List.append_nil]; rfl
  | cons segment segments ih =>
    have hgrown : ∀ c ∈ v.grow config [segment] choices,
        c.hops.length = (before ++ [segment]).length := by
      intro c hc
      obtain ⟨c₀, hc₀, hc⟩ := List.mem_flatMap.mp hc
      obtain ⟨hop, -, rfl⟩ := List.mem_map.mp hc
      rw [List.length_append, ← hlength c₀ hc₀]
      exact List.length_append
    have hnext := ih (before ++ [segment]) hgrown
    rw [← flatMap_extensions hlength segment, ← List.append_cons] at hnext
    exact hnext

theorem extendFreely_append (before after : List Segment) (partials : List PartialMatch) :
    v.extendFreely config (before ++ after) partials
      = v.extendFreely config after (v.extendFreely config before partials) := List.foldl_append

/-- Each partial match is extended by itself. -/
theorem extendFreely_eq_flatMap (segments : List Segment) (partials : List PartialMatch) :
    v.extendFreely config segments partials
      = partials.flatMap fun p => v.extendFreely config segments [p] := by
  induction segments generalizing partials with
  | nil => exact (List.flatMap_singleton' partials).symm
  | cons segment segments ih =>
    have hcons : ∀ partials, v.extendFreely config (segment :: segments) partials
        = v.extendFreely config segments (partials.flatMap (·.extensions v config segment)) :=
      fun _ => rfl
    rw [hcons, ih, List.flatMap_assoc]
    refine List.flatMap_congr fun p _ => ?_
    rw [hcons, List.flatMap_singleton, ← ih]

theorem extendFreely_sublist {partials all : List PartialMatch} (h : partials.Sublist all) :
    (v.extendFreely config segments partials).Sublist (v.extendFreely config segments all) := by
  rw [extendFreely_eq_flatMap segments partials, extendFreely_eq_flatMap segments all]
  exact h.flatMap _

/-! ### The cap -/

theorem extendAll_cons (segment : Segment) (partials : List PartialMatch) :
    v.extendAll config (segment :: segments) partials
      = v.extendAll config segments
          ((partials.flatMap (·.extensions v config segment)).take config.maxResults) := rfl

/-- The cap leaves partial matches out. -/
theorem extendAll_sublist (segments : List Segment) (partials : List PartialMatch) :
    (v.extendAll config segments partials).Sublist (v.extendFreely config segments partials) := by
  induction segments generalizing partials with
  | nil => exact List.Sublist.refl _
  | cons segment segments ih =>
    rw [extendAll_cons]
    exact (ih _).trans (extendFreely_sublist (List.take_sublist _ _))

theorem take_eq_of_length_lt {α : Type} {l : List α} {n : Nat} (h : (l.take n).length < n) :
    l.take n = l := by
  rw [List.length_take] at h
  exact List.take_of_length_le (by omega)

/-- A cap that no list comes up to does nothing. -/
theorem extendAll_eq_extendFreely {partials : List PartialMatch}
    (hroom : ∀ k, (v.extendAll config (segments.take k) partials).length < config.maxResults) :
    v.extendAll config segments partials = v.extendFreely config segments partials := by
  induction segments generalizing partials with
  | nil => rfl
  | cons segment segments ih =>
    have huncut := take_eq_of_length_lt (hroom 1)
    rw [extendAll_cons, huncut]
    refine ih fun k => ?_
    have hk := hroom (k + 1)
    rwa [List.take_succ_cons, extendAll_cons, huncut] at hk

/-- A cap that no list comes up to is above all lists without it. -/
theorem length_extendFreely_lt {partials : List PartialMatch}
    (hroom : ∀ k, (v.extendAll config (segments.take k) partials).length < config.maxResults) (k : Nat) :
    (v.extendFreely config (segments.take k) partials).length < config.maxResults := by
  have huncut : v.extendAll config (segments.take k) partials
      = v.extendFreely config (segments.take k) partials := by
    refine extendAll_eq_extendFreely fun j => ?_
    rw [List.take_take]
    exact hroom (min j k)
  exact huncut ▸ hroom k

/-- Where no list is cut, matching ranks all that the starts extend to. -/
theorem matchPattern_of_starts {pattern : PathPattern} {partials : List PartialMatch}
    (hstarts : v.starts config pattern.start initial = .ok partials)
    (hroom : ∀ k, (v.extendAll config (pattern.segments.take k) partials).length
      < config.maxResults) :
    v.matchPattern config pattern { initial }
      = .ok (Match.ranked ((v.extendFreely config pattern.segments partials).map
          (Match.ofPartial pattern))) := by
  unfold matchPattern
  rw [hstarts, ← extendAll_eq_extendFreely hroom]
  rfl

end GraphView

/-- Ranking only changes the order of the results. -/
theorem Match.map_bindings_ranked (pattern : PathPattern) (partials : List PartialMatch) :
    ((Match.ranked (partials.map (Match.ofPartial pattern))).map Match.bindings).Perm
      (partials.map PartialMatch.bindings) := by
  have hranked : (Match.ranked (partials.map (Match.ofPartial pattern))).Perm
      (partials.map (Match.ofPartial pattern)) := stableSort_perm _ _
  have hmap := hranked.map Match.bindings
  rwa [List.map_map] at hmap

/-! ### The start of a pattern -/

namespace GraphView

/-- The nodes from which a pattern starts where nothing is bound. -/
def startNodes (v : GraphView) (start : NodePattern) : List Node :=
  match v.candidates start with
  | .ok nodes => nodes.filter start.accepts
  | .error _ => []

/-- All ways through a pattern, whether their named parts fit together or not. -/
def choices (v : GraphView) (config : MatcherConfig) (pattern : PathPattern) : List Choice :=
  v.grow config pattern.segments ((v.startNodes pattern.start).map fun n => ⟨n, []⟩)

end GraphView

/-- No list of partial matches on the way through the pattern, where some variables are bound from the
start, comes up to the cap. -/
def PathPattern.HasRoomFrom (pattern : PathPattern) (v : GraphView) (config : MatcherConfig)
    (initial : Bindings) : Prop :=
  ∀ partials, v.starts config pattern.start initial = .ok partials →
    ∀ k, (v.extendAll config (pattern.segments.take k) partials).length < config.maxResults

namespace Store

variable {s : Store} {config : MatcherConfig} {start : NodePattern} {pattern : PathPattern}
  {initial : Bindings}

theorem view_candidates (s : Store) (start : NodePattern) :
    s.view.candidates start = .ok (match start.labels with
      | [] => s.allNodes
      | label :: _ => s.nodesWithLabel label) := by
  unfold GraphView.candidates
  cases start.labels <;> rfl

/-- A pattern starts from the stored nodes that it accepts. -/
theorem Reachable.mem_startNodes (hs : s.Reachable) {n : Node} :
    n ∈ s.view.startNodes start ↔ s.node? n.id = some n ∧ start.accepts n := by
  unfold GraphView.startNodes
  rw [s.view_candidates, List.mem_filter]
  refine and_congr_left fun hn => ?_
  cases hasked : start.labels with
  | nil => exact hs.wellFormed.mem_allNodes
  | cons label rest =>
    have hlabel : n.hasLabel label := by
      unfold NodePattern.accepts at hn
      rw [hasked, Bool.and_eq_true, List.all_cons, Bool.and_eq_true] at hn
      exact hn.1.1
    exact hs.mem_nodesWithLabel.trans (and_iff_left hlabel)

/-- Where no node names a label twice a pattern starts from each node once. -/
theorem Reachable.nodup_startNodes (hs : s.Reachable)
    (hlabels : ∀ id n, s.node? id = some n → n.labels.Nodup) (start : NodePattern) :
    (s.view.startNodes start).Nodup := by
  unfold GraphView.startNodes
  rw [s.view_candidates]
  refine List.Nodup.filter _ ?_
  cases start.labels with
  | nil => exact List.Nodup.of_map _ hs.wellFormed.nodup_ids
  | cons label rest => exact hs.nodup_nodesWithLabel hlabels label

theorem filter_eq_toList {α : Type} {l : List α} {p : α → Bool} {found : Option α} (hl : l.Nodup)
    (h : ∀ a, found = some a ↔ a ∈ l ∧ p a) : l.filter p = found.toList := by
  cases found with
  | none =>
    refine List.filter_eq_nil_iff.mpr fun a ha hp => ?_
    cases (h a).mpr ⟨ha, hp⟩
  | some a =>
    refine List.perm_singleton.mp ?_
    rw [List.perm_ext_iff_of_nodup (hl.filter p) (List.nodup_singleton a)]
    intro a'
    rw [List.mem_filter, ← h a', List.mem_singleton, Option.some_inj]
    exact eq_comm

/-- If the start variable is bound, looking its node up finds the start that the bindings admit. -/
theorem Reachable.starts_bound (hs : s.Reachable)
    (hlabels : ∀ id n, s.node? id = some n → n.labels.Nodup) {bound : Binding} :
    (s.view.startNodes start).filter (fun n => bound.sameElement (.node n))
      = ((bound.node?.bind fun n => s.node? n.id).filter start.accepts).toList := by
  refine filter_eq_toList (hs.nodup_startNodes hlabels start) fun n => ?_
  rw [hs.mem_startNodes, Option.filter_eq_some_iff, Binding.sameElement_iff]
  cases bound with
  | node m =>
    constructor
    · rintro ⟨hn, haccepts⟩
      have hid : n.id = m.id := hs.wellFormed.id_of_node hn
      have hstored : s.node? n.id = some n := hid ▸ hn
      exact ⟨⟨hstored, haccepts⟩, congrArg ElementIdentity.node hid.symm⟩
    · rintro ⟨⟨hn, haccepts⟩, hsame⟩
      have hid : m.id = n.id := ElementIdentity.node.inj hsame
      exact ⟨show s.node? m.id = some n from hid ▸ hn, haccepts⟩
  | edge e => exact iff_of_false (fun h => by cases h.1) fun h => by cases h.2
  | path p => exact iff_of_false (fun h => by cases h.1) fun h => by cases h.2

/-- If the start variable is not bound, the starts are scanned for and bound to it, up to the cap. -/
theorem starts_unbound (s : Store) (config : MatcherConfig)
    (hbound : start.name.bind initial.find? = none) :
    s.view.starts config start initial
      = .ok (((s.view.startNodes start).filterMap fun n =>
          (initial.bind? start.name (.node n)).map fun b => ⟨b, n, 0⟩).take config.maxResults) := by
  have hone : ∀ n : Node, (initial.bind? start.name (.node n)).map
        (fun b => (⟨b, n, 0⟩ : PartialMatch))
      = some (start.name.elim ⟨initial, n, 0⟩ fun name =>
          ⟨initial.insert name (.node n), n, 0⟩) := by
    intro n
    cases hname : start.name with
    | none => rfl
    | some name =>
      rw [hname] at hbound
      unfold Bindings.bind?
      dsimp only
      rw [show initial.find? name = none from hbound]
      rfl
  simp only [hone]
  rw [show (fun n : Node => some _) = some ∘ _ from rfl, List.filterMap_eq_map, ← List.map_take]
  unfold GraphView.starts GraphView.startNodes
  rw [hbound, s.view_candidates]
  cases start.name with
  | none => rfl
  | some name => rfl

/-- The partial matches at the start stand for the starts that the bindings admit, up to the cap. -/
theorem Reachable.starts_spec (hs : s.Reachable)
    (hlabels : ∀ id n, s.node? id = some n → n.labels.Nodup) (config : MatcherConfig)
    (start : NodePattern) (initial : Bindings) :
    let all := ((s.view.startNodes start).map fun n => Choice.mk n []).filterMap
      (·.partialFrom? initial ⟨start, []⟩)
    ∃ partials, s.view.starts config start initial = .ok partials ∧
      (partials = all ∨ partials = all.take config.maxResults) := by
  intro all
  have hall : all = (s.view.startNodes start).filterMap
      fun n => (initial.bind? start.name (.node n)).map fun b => ⟨b, n, 0⟩ :=
    List.filterMap_map.trans (List.filterMap_congr fun n _ => Choice.partialFrom?_start ..)
  cases hbound : start.name.bind initial.find? with
  | some bound =>
    obtain ⟨name, hname, hfind⟩ := Option.bind_eq_some_iff.mp hbound
    have hone : ∀ n : Node, (initial.bind? start.name (.node n)).map
          (fun b => (⟨b, n, 0⟩ : PartialMatch))
        = if bound.sameElement (.node n) then some ⟨initial, n, 0⟩ else none := by
      intro n
      rw [hname, Bindings.bind?_bound hfind]
      split_ifs <;> rfl
    unfold GraphView.starts
    rw [hbound]
    refine ⟨_, rfl, Or.inl ?_⟩
    simp only [hall, hone]
    rw [← List.filterMap_filter, hs.starts_bound hlabels]
    exact (congrFun List.filterMap_eq_map _).symm
  | none =>
    refine ⟨_, s.starts_unbound config hbound, Or.inr ?_⟩
    rw [hall]

/-! ### Matching -/

theorem length_filterMap_le {α β γ : Type} {f : α → Option β} {g : α → Option γ}
    (h : ∀ a, (f a).isSome → (g a).isSome) (l : List α) :
    (l.filterMap f).length ≤ (l.filterMap g).length := by
  rw [List.length_filterMap_eq_countP, List.length_filterMap_eq_countP]
  exact List.countP_mono_left fun a _ => h a

/-- The choices for some first segments of a pattern, and their partial matches. -/
theorem extendFreely_starts (s : Store) (config : MatcherConfig) (start : NodePattern)
    (initial : Bindings) (segments : List Segment) :
    s.view.extendFreely config segments (((s.view.startNodes start).map fun n =>
        Choice.mk n []).filterMap (·.partialFrom? initial ⟨start, []⟩))
      = (s.view.choices config ⟨start, segments⟩).filterMap
          (·.partialFrom? initial ⟨start, segments⟩) := by
  refine GraphView.extendFreely_eq [] segments fun c hc => ?_
  obtain ⟨n, -, rfl⟩ := List.mem_map.mp hc
  rfl

/-- Where no list is cut, the starts are those that the bindings admit. -/
theorem Reachable.starts_eq (hs : s.Reachable)
    (hlabels : ∀ id n, s.node? id = some n → n.labels.Nodup)
    (hroom : pattern.HasRoomFrom s.view config initial) :
    s.view.starts config pattern.start initial
      = .ok (((s.view.startNodes pattern.start).map fun n => Choice.mk n []).filterMap
          (·.partialFrom? initial ⟨pattern.start, []⟩)) := by
  obtain ⟨partials, hstarts, rfl | rfl⟩ := hs.starts_spec hlabels config pattern.start initial
  · exact hstarts
  · rw [hstarts, GraphView.take_eq_of_length_lt (hroom _ hstarts 0)]

/-- Where no list is cut, matching gives the partial matches of all choices, ranked. -/
theorem Reachable.matchPattern_eq (hs : s.Reachable)
    (hlabels : ∀ id n, s.node? id = some n → n.labels.Nodup)
    (hroom : pattern.HasRoomFrom s.view config initial) :
    s.view.matchPattern config pattern { initial }
      = .ok (Match.ranked (((s.view.choices config pattern).filterMap
          (·.partialFrom? initial pattern)).map (Match.ofPartial pattern))) := by
  have hstarts := hs.starts_eq hlabels hroom
  rw [GraphView.matchPattern_of_starts hstarts (hroom _ hstarts), extendFreely_starts]

/-- If there is room where nothing is bound from the start, there is room where something is. -/
theorem Reachable.hasRoomFrom (hs : s.Reachable)
    (hlabels : ∀ id n, s.node? id = some n → n.labels.Nodup)
    (hroom : pattern.HasRoomFrom s.view config {}) (initial : Bindings) :
    pattern.HasRoomFrom s.view config initial := by
  have hfewer : ∀ k, (s.view.extendFreely config (pattern.segments.take k)
      (((s.view.startNodes pattern.start).map fun n => Choice.mk n []).filterMap
        (·.partialFrom? initial ⟨pattern.start, []⟩))).length < config.maxResults := by
    intro k
    have hstarts := hs.starts_eq hlabels hroom
    have hk := GraphView.length_extendFreely_lt (hroom _ hstarts) k
    rw [extendFreely_starts] at hk
    rw [extendFreely_starts]
    refine Nat.lt_of_le_of_lt (length_filterMap_le (fun c hc => ?_) _) hk
    unfold Choice.partialFrom? at hc ⊢
    rw [Option.isSome_map, Bindings.bindMore_isSome_iff] at hc ⊢
    exact Bindings.admits_empty_iff.mpr hc.consistent
  intro partials hpartials k
  obtain ⟨partials', hstarts, hsublist⟩ := hs.starts_spec hlabels config pattern.start initial
  obtain rfl := Except.ok.inj (hstarts.symm.trans hpartials)
  refine Nat.lt_of_le_of_lt (List.Sublist.length_le ?_) (hfewer k)
  refine (GraphView.extendAll_sublist _ _).trans (GraphView.extendFreely_sublist ?_)
  rcases hsublist with rfl | rfl
  · exact List.Sublist.refl _
  · exact List.take_sublist _ _

end Store

end PropertyGraph
