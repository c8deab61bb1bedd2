import PropertyGraph.Proofs.Pattern.ShortestPaths
import PropertyGraph.Proofs.Query.Traversal

/-!
# What a traversal finds

From rows that have ids a traversal finds the nodes that pass its filter and are ends of the expansion
from the node of some row, each of them once (`Traversal.fromRows_spec`).

Where no expansion comes up to its limit these are the stored nodes that pass the filter and whose
distance from the node of some row is within the depths of the traversal (`Traversal.WithinReach`).
So it makes no difference to what is found how the rows are ordered and how often each occurs
(`run_traverse`), although a node that one row finds is passed over for all the rows behind it.
-/

namespace PropertyGraph

section AnyEngine

variable {ρ : Type} [RegexEngine ρ]

/-- The row of a node has the id of the node. -/
theorem rowId?_toValue (n : Node) : rowId? n.toValue = some n.id := rfl

namespace Traversal

variable {v : GraphView} {s : Store} {t : Traversal} {limit : Nat}

/-- The expansion of a traversal from a node. -/
def expansion (t : Traversal) (v : GraphView) (limit : Nat) (start : Node) : Expansion :=
  v.expand start t.relationship t.minDepth t.maxDepth limit

/-- The node that a row stands for. -/
def origin? (v : GraphView) (row : Value) : Option Node := (rowId? row).bind v.node?

/-- The node passes the filter of the traversal, and the expansion from the other one ends at it. -/
structure Reaches (t : Traversal) (v : GraphView) (limit : Nat) (start n : Node) : Prop where
  finds : v.Finds n
  passes : Filter.allHold n.toValue t.filter = true
  isEnd : n.id ∈ Search.ends (t.expansion v limit start).paths

/-! ### Adding nodes once -/

theorem mem_addNew_iff {found : List Node} {n m : Node} (hfound : ∀ m ∈ found, v.Finds m)
    (hn : v.Finds n) : m ∈ addNew found n ↔ m ∈ found ∨ m = n := by
  refine ⟨mem_addNew, fun h => ?_⟩
  unfold addNew
  split_ifs with hany
  · rcases h with h | rfl
    · exact h
    · -- the node with the id is the node itself
      obtain ⟨m', hm', hid⟩ := List.any_eq_true.mp hany
      obtain rfl : m' = m := (hfound m' hm').eq_of_id_eq hn (eq_of_beq hid)
      exact hm'
  · exact List.mem_append.mpr (h.imp_right List.mem_singleton.mpr)

theorem nodup_addNew {found : List Node} (h : (found.map Node.id).Nodup) (n : Node) :
    ((addNew found n).map Node.id).Nodup := by
  unfold addNew
  split_ifs with hany
  · exact h
  · rw [List.map_append, List.map_singleton]
    refine h.append (List.nodup_singleton _) (List.disjoint_singleton.mpr fun hid => hany ?_)
    obtain ⟨m, hm, hid⟩ := List.mem_map.mp hid
    exact List.any_eq_true.mpr ⟨m, hm, beq_iff_eq.mpr hid⟩

theorem foldl_addNew_spec {found reached : List Node} (hfound : ∀ m ∈ found, v.Finds m)
    (hreached : ∀ m ∈ reached, v.Finds m) (hnodup : (found.map Node.id).Nodup) :
    (∀ m, m ∈ reached.foldl addNew found ↔ m ∈ found ∨ m ∈ reached) ∧
      ((reached.foldl addNew found).map Node.id).Nodup := by
  induction reached generalizing found with
  | nil => exact ⟨fun m => (or_iff_left (List.not_mem_nil (a := m))).symm, hnodup⟩
  | cons n rest ih =>
    obtain ⟨hn, hrest⟩ := List.forall_mem_cons.mp hreached
    have hnext : ∀ m ∈ addNew found n, v.Finds m := fun m hm =>
      (mem_addNew hm).elim (hfound m) fun heq => heq ▸ hn
    obtain ⟨hmem, hends⟩ := ih hnext hrest (nodup_addNew hnodup n)
    refine ⟨fun m => ?_, hends⟩
    rw [List.foldl_cons, hmem, mem_addNew_iff hfound hn, List.mem_cons, or_assoc]

/-! ### One row -/

/-- What has been found after some rows: the nodes that are reached from them. -/
structure Progress.Complete (t : Traversal) (v : GraphView) (limit : Nat) (rows : List Value)
    (p : Progress) : Prop where
  found : ∀ n, n ∈ p.found ↔ ∃ row ∈ rows, ∃ start, origin? v row = some start ∧
    t.Reaches v limit start n
  nodup : (p.found.map Node.id).Nodup

theorem Progress.Complete.finds {rows : List Value} {p : Progress} (h : p.Complete t v limit rows) :
    ∀ n ∈ p.found, v.Finds n := fun n hn =>
  have ⟨_, _, _, _, hreaches⟩ := (h.found n).mp hn
  hreaches.finds

/-- The ends that pass the filter are the nodes that are reached. -/
theorem mem_ends_passing (hv : v.Shows s) (hs : s.WellFormed) {start : Node} (hstart : v.Finds start)
    {n : Node} :
    n ∈ ((t.expansion v limit start).paths.filterMap Path.end?).filter
        (fun n => Filter.allHold n.toValue t.filter)
      ↔ t.Reaches v limit start n := by
  have hends : ∀ p ∈ (t.expansion v limit start).paths, p.EndsIn v :=
    hv.finds_of_mem_expand hs hstart
  rw [List.mem_filter, List.mem_filterMap]
  constructor
  · rintro ⟨⟨p, hp, hend⟩, hpasses⟩
    exact ⟨hends p hp n hend, hpasses,
      List.mem_filterMap.mpr ⟨p, hp, congrArg (Option.map Node.id) hend⟩⟩
  · rintro ⟨hfinds, hpasses, hid⟩
    obtain ⟨p, hp, hid⟩ := List.mem_filterMap.mp hid
    obtain ⟨m, hend, hsame⟩ := Option.map_eq_some_iff.mp hid
    obtain rfl : m = n := (hends p hp m hend).eq_of_id_eq hfinds hsame
    exact ⟨⟨p, hp, hend⟩, hpasses⟩

/-- **Step of a traversal**: a row that has an id adds what is reached from its node. -/
theorem fromRow_spec (hv : v.Shows s) (hs : s.WellFormed) {rows : List Value} {p : Progress}
    (hp : p.Complete t v limit rows) {row : Value} (hrow : (rowId? row).isSome) :
    ∃ p', t.fromRow v limit p row = .ok p' ∧ p'.Complete t v limit (rows ++ [row]) := by
  obtain ⟨id, hid⟩ := Option.isSome_iff_exists.mp hrow
  unfold fromRow
  rw [hid]
  dsimp only
  cases hstart : v.node? id with
  | none =>
    refine ⟨p, rfl, fun n => (hp.found n).trans ?_, hp.nodup⟩
    simp [origin?, hid, hstart, or_and_right, exists_or]
  | some start =>
    have hnodes : ∀ n ∈ ((t.expansion v limit start).paths.filterMap Path.end?).filter
        (fun n => Filter.allHold n.toValue t.filter), v.Finds n :=
      fun n hn => ((mem_ends_passing hv hs (hv.finds hs hstart)).mp hn).finds
    obtain ⟨hmem, hnodup⟩ := foldl_addNew_spec hp.finds hnodes hp.nodup
    refine ⟨_, rfl, fun n => (hmem n).trans ?_, hnodup⟩
    rw [hp.found, mem_ends_passing hv hs (hv.finds hs hstart)]
    simp [origin?, hid, hstart, or_and_right, exists_or]

/-! ### All rows -/

/-- **What a traversal finds.**  From rows that have ids it finds the nodes that are reached from the
nodes of the rows, each of them once. -/
theorem fromRows_spec (hv : v.Shows s) (hs : s.WellFormed) (t : Traversal) (limit : Nat)
    {rows : List Value} (hrows : ∀ row ∈ rows, (rowId? row).isSome) :
    ∃ p, t.fromRows v limit rows = .ok p ∧ p.Complete t v limit rows := by
  -- rows go from the front of `rest` to the end of `done`
  have hrun : ∀ (rest done : List Value) (p : Progress), p.Complete t v limit done →
      (∀ row ∈ rest, (rowId? row).isSome) →
        ∃ p', rest.foldlM (t.fromRow v limit) p = .ok p' ∧ p'.Complete t v limit (done ++ rest) := by
    intro rest
    induction rest with
    | nil => exact fun done p hp _ => ⟨p, rfl, (List.append_nil done).symm ▸ hp⟩
    | cons row rest ih =>
      intro done p hp hids
      obtain ⟨hrow, hrest⟩ := List.forall_mem_cons.mp hids
      obtain ⟨p₁, hstep, hp₁⟩ := fromRow_spec hv hs hp hrow
      obtain ⟨p', hfold, hp'⟩ := ih (done ++ [row]) p₁ hp₁ hrest
      refine ⟨p', ?_, List.append_cons done row rest ▸ hp'⟩
      rw [List.foldlM_cons, hstep]
      exact hfold
  refine hrun rows [] {} ⟨fun n => ?_, List.nodup_nil⟩ hrows
  exact ⟨fun hn => (List.not_mem_nil hn).elim, fun ⟨_, hrow, _⟩ => (List.not_mem_nil hrow).elim⟩

/-- Rows that are the same but for their order and for how often they occur find the same nodes. -/
theorem Progress.Complete.perm {rows rows' : List Value} {p p' : Progress}
    (h : p.Complete t v limit rows) (h' : p'.Complete t v limit rows')
    (hsame : ∀ row, row ∈ rows' ↔ row ∈ rows) : p'.found.Perm p.found := by
  -- both find each node once, so it is enough that they find the same ones
  rw [List.perm_ext_iff_of_nodup (List.Nodup.of_map _ h'.nodup) (List.Nodup.of_map _ h.nodup)]
  intro n
  rw [h'.found, h.found]
  simp only [hsame]

/-! ### Distances -/

/-- The node is stored, it passes the filter of the traversal, and its distance from the node of one
of the rows is within the depths of the traversal. -/
structure WithinReach (t : Traversal) (s : Store) (rows : List Value) (n : Node) : Prop where
  stored : s.node? n.id = some n
  passes : Filter.allHold n.toValue t.filter = true
  near : ∃ row ∈ rows, ∃ start, origin? s.view row = some start ∧
    ∃ d, t.minDepth ≤ d ∧ d ≤ t.maxDepth ∧ s.Distance t.relationship start n.id d

/-- The expansions from the nodes of the rows find fewer paths than they are limited to. -/
def Uncapped (t : Traversal) (s : Store) (limit : Nat) (rows : List Value) : Prop :=
  ∀ row ∈ rows, ∀ start, origin? s.view row = some start →
    (t.expansion s.view limit start).paths.length < limit

/-- An expansion that does not come up to its limit ends at the nodes whose distance is in range. -/
theorem mem_ends_expansion_iff (hs : s.WellFormed) {start : Node} {id : NodeId}
    (hlimit : (t.expansion s.view limit start).paths.length < limit) :
    id ∈ Search.ends (t.expansion s.view limit start).paths ↔
      ∃ d, t.minDepth ≤ d ∧ d ≤ t.maxDepth ∧ s.Distance t.relationship start id d := by
  obtain ⟨hsound, hcomplete⟩ :=
    s.view_shows.expand_ends hs start t.relationship t.minDepth t.maxDepth limit
  simp only [hs.distance_iff s.view_shows]
  exact ⟨hsound id, hcomplete hlimit id⟩

/-- Without a limit in the way a traversal finds what is within reach of the rows. -/
theorem Progress.Complete.mem_found_iff (hs : s.WellFormed) {rows : List Value} {p : Progress}
    (h : p.Complete t s.view limit rows) (huncapped : t.Uncapped s limit rows) {n : Node} :
    n ∈ p.found ↔ t.WithinReach s rows n := by
  rw [h.found]
  constructor
  · rintro ⟨row, hrow, start, hstart, hreaches⟩
    refine ⟨hreaches.finds, hreaches.passes, row, hrow, start, hstart, ?_⟩
    exact (mem_ends_expansion_iff hs (huncapped row hrow start hstart)).mp hreaches.isEnd
  · rintro ⟨hstored, hpasses, row, hrow, start, hstart, hnear⟩
    refine ⟨row, hrow, start, hstart, hstored, hpasses, ?_⟩
    exact (mem_ends_expansion_iff hs (huncapped row hrow start hstart)).mpr hnear

end Traversal

/-- A traversal answers with the rows of what it has found. -/
theorem PlanStep.run_traverse_of_ok {v : GraphView} {config : MatcherConfig} {before : QueryResult}
    {t : Traversal} {p : Traversal.Progress}
    (h : t.fromRows v config.maxResults before.rows = .ok p) :
    ∃ r, PlanStep.run v config before (.traverse t) = .ok r ∧
      r.rows = p.found.map Node.toValue := by
  unfold PlanStep.run
  dsimp only
  rw [h]
  exact ⟨_, rfl, rfl⟩

/-- **A traversal returns the reachable set.**  From rows that have ids, and with no expansion coming
up to its limit, it answers with just the stored nodes that pass its filter and whose distance from
the node of some row is within its depths, each of them once.  The same rows in another order, and
however often each occurs, are answered with the same nodes in some order. -/
theorem run_traverse {s : Store} (hs : s.Reachable) (t : Traversal) (config : MatcherConfig)
    (before : QueryResult) (hrows : ∀ row ∈ before.rows, (rowId? row).isSome)
    (huncapped : t.Uncapped s config.maxResults before.rows) :
    ∃ (r : QueryResult) (nodes : List Node),
      PlanStep.run s.view config before (.traverse t) = .ok r ∧
      r.rows = nodes.map Node.toValue ∧
      (nodes.map Node.id).Nodup ∧
      (∀ n, n ∈ nodes ↔ t.WithinReach s before.rows n) ∧
      ∀ before' : QueryResult, (∀ row, row ∈ before'.rows ↔ row ∈ before.rows) →
        ∃ r', PlanStep.run s.view config before' (.traverse t) = .ok r' ∧ r'.rows.Perm r.rows := by
  obtain ⟨p, hp, hcomplete⟩ :=
    Traversal.fromRows_spec s.view_shows hs.wellFormed t config.maxResults hrows
  obtain ⟨r, hr, hanswer⟩ := PlanStep.run_traverse_of_ok hp
  refine ⟨r, p.found, hr, hanswer, hcomplete.nodup,
    fun n => hcomplete.mem_found_iff hs.wellFormed huncapped, fun before' hsame => ?_⟩
  obtain ⟨p', hp', hcomplete'⟩ := Traversal.fromRows_spec s.view_shows hs.wellFormed t
    config.maxResults fun row hrow => hrows row ((hsame row).mp hrow)
  obtain ⟨r', hr', hanswer'⟩ := PlanStep.run_traverse_of_ok hp'
  refine ⟨r', hr', ?_⟩
  rw [hanswer, hanswer']
  exact (hcomplete.perm hcomplete' hsame).map _

end AnyEngine

/-- Two rows of a cycle: one hop on, the first does not find its own node, but the second does. -/
def cycleRows : QueryResult :=
  ⟨[(⟨"b", [], .empty⟩ : Node).toValue, (⟨"a", [], .empty⟩ : Node).toValue], {}⟩

theorem run_traverse_cycle :
    ∃ r r' : QueryResult,
      PlanStep.run Store.cycle.view {} cycleRows (.traverse { edgeType := some "next" }) = .ok r ∧
      r.ids = ["c", "b"] ∧
      PlanStep.run Store.cycle.view {} ⟨cycleRows.rows.reverse ++ cycleRows.rows, {}⟩
        (.traverse { edgeType := some "next" }) = .ok r' ∧
      r'.rows.Perm r.rows := by
  have hrows : ∀ row ∈ cycleRows.rows, (rowId? row).isSome := by decide +kernel
  have huncapped : Traversal.Uncapped { edgeType := some "next" } Store.cycle 10000
      cycleRows.rows := by
    refine List.forall_mem_cons.mpr ⟨fun start hstart => ?_,
      List.forall_mem_singleton.mpr fun start hstart => ?_⟩
    · obtain rfl : ⟨"b", [], .empty⟩ = start := Option.some.inj hstart
      decide +kernel
    · obtain rfl : ⟨"a", [], .empty⟩ = start := Option.some.inj hstart
      decide +kernel
  obtain ⟨r, nodes, hr, -, -, -, hagain⟩ := run_traverse Store.reachable_cycle
    { edgeType := some "next" } {} cycleRows hrows huncapped
  obtain ⟨r', hr', hperm⟩ := hagain ⟨cycleRows.rows.reverse ++ cycleRows.rows, {}⟩ fun row => by
    simp [or_self]
  refine ⟨r, r', hr, ?_, hr', hperm⟩
  have hids : (PlanStep.run Store.cycle.view {} cycleRows
      (.traverse { edgeType := some "next" })).toOption.map QueryResult.ids = some ["c", "b"] := by
    decide +kernel
  rw [hr] at hids
  exact Option.some.inj hids

end PropertyGraph
