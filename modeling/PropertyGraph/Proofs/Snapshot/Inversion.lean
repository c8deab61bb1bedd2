import PropertyGraph.Proofs.Collection.StableSort
import PropertyGraph.Proofs.Snapshot.RoundTrip

/-!
# The diff of two snapshots the other way round

Comparing the second of two snapshots with the first finds the inverse of the diff from the first to
the second (`Differ.compare_swap`), whatever the snapshots name twice and whatever is ignored.

The comparison looks at the second snapshot before the first and the inverse turns the changes round
where they stand, so the two lists of changes come in different orders.  They hold the same changes,
and sorting brings these into one order: there is at most one change of a node or of a piece of
metadata, and of an edge at most one removal and one addition.
-/

namespace PropertyGraph

/-! ### Sorting changes -/

theorem ChangeKind.rank_injective : Function.Injective ChangeKind.rank := by
  intro k k' h
  cases k <;> cases k' <;> first | rfl | cases h

instance NodeDiff.transCmp : Std.TransCmp NodeDiff.compare :=
  inferInstanceAs (Std.TransCmp (compareLex (compareOn NodeDiff.id)
    (compareOn fun d : NodeDiff => d.kind.rank)))

instance EdgeDiff.transCmp : Std.TransCmp EdgeDiff.compare :=
  inferInstanceAs (Std.TransCmp (compareLex (compareOn EdgeDiff.key)
    (compareOn fun d : EdgeDiff => d.kind.rank)))

namespace SnapshotDiff

/-- No two of the changes are of the same thing. -/
structure Distinct (nodes : List NodeDiff) (edges : List EdgeDiff) (metadata : List MetadataChange) :
    Prop where
  nodes : (nodes.map NodeDiff.id).Nodup
  edges : (edges.map fun d => (d.key, d.kind)).Nodup
  metadata : (metadata.map MetadataChange.key).Nodup

variable {v w : String} {nodes nodes' : List NodeDiff} {edges edges' : List EdgeDiff}
  {metadata metadata' : List MetadataChange}

theorem summaryOf_eq_of_perm (hnodes : nodes.Perm nodes') (hedges : edges.Perm edges')
    (hmetadata : metadata.Perm metadata') :
    summaryOf nodes edges metadata = summaryOf nodes' edges' metadata' := by
  unfold summaryOf
  simp only [hnodes.countP_eq, hedges.countP_eq, hmetadata.length_eq]

/-- The diff of distinct changes does not depend on the order in which they are given. -/
theorem of_eq_of_perm (hdistinct : Distinct nodes edges metadata) (hnodes : nodes.Perm nodes')
    (hedges : edges.Perm edges') (hmetadata : metadata.Perm metadata') :
    of v w nodes edges metadata = of v w nodes' edges' metadata' := by
  have hnodesSorted : stableSortBy NodeDiff.compare nodes = stableSortBy NodeDiff.compare nodes' := by
    refine stableSortBy_eq_of_perm hnodes hdistinct.nodes fun c c' heq => ?_
    obtain ⟨hid, -⟩ := compareLex_eq_eq.mp heq
    exact Std.LawfulEqOrd.eq_of_compare hid
  have hedgesSorted : stableSortBy EdgeDiff.compare edges = stableSortBy EdgeDiff.compare edges' := by
    refine stableSortBy_eq_of_perm hedges hdistinct.edges fun c c' heq => ?_
    obtain ⟨hkey, hrank⟩ := compareLex_eq_eq.mp heq
    exact Prod.ext (Std.LawfulEqOrd.eq_of_compare hkey)
      (ChangeKind.rank_injective (Std.LawfulEqOrd.eq_of_compare hrank))
  have hmetadataSorted : stableSortBy (compareOn MetadataChange.key) metadata
      = stableSortBy (compareOn MetadataChange.key) metadata' :=
    stableSortBy_eq_of_perm hmetadata hdistinct.metadata fun c c' heq =>
      Std.LawfulEqOrd.eq_of_compare heq
  unfold of
  rw [hnodesSorted, hedgesSorted, hmetadataSorted, summaryOf_eq_of_perm hnodes hedges hmetadata]

end SnapshotDiff

namespace Differ

/-! ### Nodes -/

variable {config : DiffConfig} {before after : SortedMap NodeId Node}

/-- The change of a node turned round is the change the other way. -/
theorem nodeChange?_swap (config : DiffConfig) (before after : SortedMap NodeId Node) (id : NodeId) :
    nodeChange? config after before id = (nodeChange? config before after id).map NodeDiff.inverse := by
  unfold nodeChange?
  cases before.find? id with
  | none => cases after.find? id <;> rfl
  | some n =>
    cases after.find? id with
    | none => rfl
    | some m =>
      dsimp only
      rw [← NodeComparator.fieldwise_inverse, List.isEmpty_map]
      split_ifs <;> rfl

theorem nodeDiffs_swap (config : DiffConfig) (hbefore : before.KeyedBy Node.id)
    (hafter : after.KeyedBy Node.id) :
    (nodeDiffs ⟨config, .empty⟩ after before).Perm
      ((nodeDiffs ⟨config, .empty⟩ before after).map NodeDiff.inverse) := by
  have hnodup : (((nodeDiffs ⟨config, .empty⟩ before after).map NodeDiff.inverse).map
      NodeDiff.id).Nodup := by
    rw [List.map_map]
    exact nodup_nodeDiffs hbefore hafter _
  rw [List.perm_ext_iff_of_nodup (List.Nodup.of_map _ (nodup_nodeDiffs hafter hbefore _))
    (List.Nodup.of_map _ hnodup)]
  intro c
  rw [mem_nodeDiffs hafter hbefore, nodeChange?_swap, Option.map_eq_some_iff, List.mem_map]
  constructor
  · rintro ⟨c', hc', rfl⟩
    exact ⟨c', (mem_nodeDiffs hbefore hafter c').mpr hc', rfl⟩
  · rintro ⟨c', hc', rfl⟩
    exact ⟨c', (mem_nodeDiffs hbefore hafter c').mp hc', rfl⟩

/-! ### Edges -/

variable {old new : SortedMap EdgeKey Edge}

/-- The removals and additions are turned into each other, and so change their places. -/
theorem edgeDiffs_swap (old new : SortedMap EdgeKey Edge) :
    (edgeDiffs new old).Perm ((edgeDiffs old new).map EdgeDiff.inverse) := by
  unfold edgeDiffs
  rw [List.map_append, List.map_map, List.map_map]
  exact List.perm_append_comm

theorem nodup_edgeDiffs (hold : old.KeyedBy Edge.key) (hnew : new.KeyedBy Edge.key) :
    ((edgeDiffs old new).map fun d => (d.key, d.kind)).Nodup := by
  -- within one kind the keys are different
  have hkind : ∀ {edges : SortedMap EdgeKey Edge} (p : Edge → Bool) (kind : ChangeKind),
      edges.KeyedBy Edge.key → ((edges.values.filter p).map fun e => (e.key, kind)).Nodup := by
    intro edges p kind h
    refine List.Nodup.of_map Prod.fst ?_
    rw [List.map_map]
    exact h.nodup.sublist (List.filter_sublist.map Edge.key)
  unfold edgeDiffs
  rw [List.map_append, List.map_map, List.map_map]
  refine List.Nodup.append (hkind _ .removed hold) (hkind _ .added hnew) fun x hx hx' => ?_
  obtain ⟨e, -, rfl⟩ := List.mem_map.mp hx
  obtain ⟨e', -, heq⟩ := List.mem_map.mp hx'
  cases (Prod.mk.inj heq).2

/-! ### Metadata -/

theorem sameMetadata_comm (x y : Option Value) : sameMetadata x y = sameMetadata y x := by
  cases x <;> cases y <;> first | rfl | exact Value.equals_comm _ _

theorem metadataChange?_swap (data data' : SortedMap String Value) (key : String) :
    metadataChange? data' data key = (metadataChange? data data' key).map MetadataChange.inverse := by
  unfold metadataChange?
  dsimp only
  rw [sameMetadata_comm]
  split_ifs <;> rfl

theorem metadataChanges_swap (data data' : SortedMap String Value) :
    metadataChanges data' data = (metadataChanges data data').map MetadataChange.inverse := by
  have hkeys : (data'.union data).keys = (data.union data').keys := by
    refine SortedMap.keys_eq_of_isSome_eq fun key => ?_
    rw [SortedMap.find?_union, SortedMap.find?_union, Option.isSome_or, Option.isSome_or, Bool.or_comm]
  unfold metadataChanges
  rw [hkeys, List.map_filterMap]
  exact List.filterMap_congr fun key _ => metadataChange?_swap data data' key

/-! ### Snapshots -/

theorem distinct_changes (config : DiffConfig) (a b : GraphSnapshot) :
    SnapshotDiff.Distinct (nodeDiffs ⟨config, .empty⟩ (nodesById a.nodes) (nodesById b.nodes))
      (edgeDiffs (edgesByKey a.edges) (edgesByKey b.edges))
      (metadataChanges a.metadata b.metadata) where
  nodes := nodup_nodeDiffs (SortedMap.keyedBy_ofList _) (SortedMap.keyedBy_ofList _) _
  edges := nodup_edgeDiffs (SortedMap.keyedBy_ofList _) (SortedMap.keyedBy_ofList _)
  metadata := nodup_metadataChanges _ _

/-- Comparing two snapshots the other way round gives the inverse of their diff. -/
theorem compare_swap {config : DiffConfig} {a b : GraphSnapshot} (ha : a.version ≠ "")
    (hb : b.version ≠ "") :
    ∃ diff, (Differ.mk config .empty).compare a b = .ok diff ∧
      (Differ.mk config .empty).compare b a = .ok diff.inverse := by
  refine ⟨_, compare_eq _ ha hb, (compare_eq _ hb ha).trans (congrArg Except.ok ?_)⟩
  have hbefore : (nodesById a.nodes).KeyedBy Node.id := SortedMap.keyedBy_ofList _
  have hafter : (nodesById b.nodes).KeyedBy Node.id := SortedMap.keyedBy_ofList _
  have hnodes := nodeDiffs_swap config hbefore hafter
  have hedges := edgeDiffs_swap (edgesByKey a.edges) (edgesByKey b.edges)
  have hmetadata := metadataChanges_swap a.metadata b.metadata
  -- the inverse turns round what has been sorted before
  refine SnapshotDiff.of_eq_of_perm (distinct_changes config b a) ?_ ?_ ?_
  · exact hnodes.trans ((stableSort_perm ..).map _).symm
  · exact hedges.trans ((stableSort_perm ..).map _).symm
  · rw [hmetadata]
    exact ((stableSort_perm ..).map _).symm

theorem compare_swap_editions :
    firstEdition.version ≠ "" ∧ secondEdition.version ≠ "" ∧
      ∃ diff, (Differ.mk {} .empty).compare firstEdition secondEdition = .ok diff ∧
        (Differ.mk {} .empty).compare secondEdition firstEdition = .ok diff.inverse :=
  ⟨by decide, by decide, compare_swap (by decide) (by decide)⟩

end Differ

end PropertyGraph
