import PropertyGraph.Proofs.Snapshot.Inversion

/-!
# Inverting a diff twice

The inverse of a diff is sorted again, and since a removal that is turned round becomes an addition,
changes of one thing change their places.  They come back to them when the inverse is inverted
(`inverse_inverse_of`), also where several changes are of one thing and of one kind: these keep the
order in which they are listed.

The counters of a diff say how many changes of each kind are listed, and those of the inverse are
the same but for the additions and the removals, which change places.
-/

namespace PropertyGraph

/-! ### Changes -/

theorem FieldChange.inverse_involutive : Function.Involutive FieldChange.inverse := fun _ => rfl

theorem NodeDiff.inverse_involutive : Function.Involutive NodeDiff.inverse := by
  intro d
  obtain ⟨id, kind, node, changes⟩ := d
  simp only [inverse, ChangeKind.inverse_inverse, List.map_map,
    FieldChange.inverse_involutive.comp_self, List.map_id]

theorem EdgeDiff.inverse_involutive : Function.Involutive EdgeDiff.inverse := by
  intro d
  obtain ⟨key, kind, edge⟩ := d
  simp only [inverse, ChangeKind.inverse_inverse]

theorem MetadataChange.inverse_involutive : Function.Involutive MetadataChange.inverse :=
  fun _ => rfl

theorem ChangeKind.compare_rank_inverse {k k' : ChangeKind} (h : compare k.rank k'.rank = .eq) :
    compare k.inverse.rank k'.inverse.rank = .eq := by
  rw [rank_injective (Std.LawfulEqOrd.eq_of_compare h)]
  exact Std.ReflCmp.compare_self

theorem NodeDiff.compare_inverse {d d' : NodeDiff} (h : d.compare d' = .eq) :
    d.inverse.compare d'.inverse = .eq := by
  obtain ⟨hid, hrank⟩ := compareLex_eq_eq.mp h
  exact compareLex_eq_eq.mpr ⟨hid, ChangeKind.compare_rank_inverse hrank⟩

theorem EdgeDiff.compare_inverse {d d' : EdgeDiff} (h : d.compare d' = .eq) :
    d.inverse.compare d'.inverse = .eq := by
  obtain ⟨hkey, hrank⟩ := compareLex_eq_eq.mp h
  exact compareLex_eq_eq.mpr ⟨hkey, ChangeKind.compare_rank_inverse hrank⟩

/-! ### Counters -/

/-- The counters of the diff that leads back: what was added is removed. -/
def DiffSummary.inverse (s : DiffSummary) : DiffSummary :=
  { s with
    nodesAdded := s.nodesRemoved
    nodesRemoved := s.nodesAdded
    edgesAdded := s.edgesRemoved
    edgesRemoved := s.edgesAdded }

namespace SnapshotDiff

/-- Each counter is the number of the listed changes of its kind. -/
structure Tallied (d : SnapshotDiff) : Prop where
  nodesAdded : d.summary.nodesAdded = (d.nodes.filter fun c => c.kind = .added).length
  nodesRemoved : d.summary.nodesRemoved = (d.nodes.filter fun c => c.kind = .removed).length
  nodesModified : d.summary.nodesModified = (d.nodes.filter fun c => c.kind = .modified).length
  edgesAdded : d.summary.edgesAdded = (d.edges.filter fun c => c.kind = .added).length
  edgesRemoved : d.summary.edgesRemoved = (d.edges.filter fun c => c.kind = .removed).length
  metadataChanged : d.summary.metadataChanged = d.metadata.length

variable {v w : String} {nodes : List NodeDiff} {edges : List EdgeDiff}
  {metadata : List MetadataChange}

/-- Sorting changes does not change how many there are. -/
theorem summary_of :
    (of v w nodes edges metadata).summary = summaryOf (of v w nodes edges metadata).nodes
      (of v w nodes edges metadata).edges (of v w nodes edges metadata).metadata :=
  summaryOf_eq_of_perm (stableSort_perm ..).symm (stableSort_perm ..).symm
    (stableSort_perm ..).symm

theorem tallied_of : (of v w nodes edges metadata).Tallied := by
  constructor <;> rw [summary_of] <;> simp only [summaryOf, List.countP_eq_length_filter] <;> rfl

theorem summaryOf_inverse :
    summaryOf (nodes.map NodeDiff.inverse) (edges.map EdgeDiff.inverse)
        (metadata.map MetadataChange.inverse)
      = (summaryOf nodes edges metadata).inverse := by
  have hkind : ∀ k k' : ChangeKind, (k.inverse == k') = (k == k'.inverse) := by
    intro k k'
    cases k <;> cases k' <;> rfl
  simp only [summaryOf, DiffSummary.inverse, List.countP_map, List.length_map, Function.comp_def,
    NodeDiff.inverse, EdgeDiff.inverse, hkind]
  rfl

/-- Inverting turns the counters round. -/
theorem summary_inverse_of :
    (of v w nodes edges metadata).inverse.summary
      = (of v w nodes edges metadata).summary.inverse := by
  rw [summary_of, ← summaryOf_inverse]
  rfl

/-! ### Twice -/

/-- **Inverting is an involution.**  The inverse of the inverse of a diff of any changes is the diff
itself.  The counters of both count the changes that are listed, and inverting turns the counts of
what is added and what is removed into each other. -/
theorem inverse_inverse_of (v w : String) (nodes : List NodeDiff) (edges : List EdgeDiff)
    (metadata : List MetadataChange) :
    (of v w nodes edges metadata).inverse.inverse = of v w nodes edges metadata ∧
      (of v w nodes edges metadata).Tallied ∧ (of v w nodes edges metadata).inverse.Tallied ∧
      (of v w nodes edges metadata).inverse.summary
        = (of v w nodes edges metadata).summary.inverse := by
  have hnodes := stableSortBy_map_involutive (stableSortBy_sorted NodeDiff.compare nodes)
    NodeDiff.inverse_involutive fun _ _ => NodeDiff.compare_inverse
  have hedges := stableSortBy_map_involutive (stableSortBy_sorted EdgeDiff.compare edges)
    EdgeDiff.inverse_involutive fun _ _ => EdgeDiff.compare_inverse
  have hmetadata := stableSortBy_map_involutive
    (stableSortBy_sorted (compareOn MetadataChange.key) metadata)
    MetadataChange.inverse_involutive fun _ _ heq => heq
  -- the inverse is a diff of changes as well, so its counters are turned round once more
  have hsummary : (of v w nodes edges metadata).inverse.inverse.summary
      = (of v w nodes edges metadata).summary := summary_inverse_of.trans
    (congrArg DiffSummary.inverse summary_inverse_of)
  refine ⟨?_, tallied_of, tallied_of, summary_inverse_of⟩
  exact (SnapshotDiff.mk.injEq ..).mpr ⟨rfl, rfl, hnodes, hedges, hmetadata, hsummary⟩

/-- The removal of an edge and two additions of it change places, and the additions keep theirs. -/
example :
    let edge (page : Int64) : Edge := ⟨"a", "b", "cites", .ofList [("page", .int page)]⟩
    let changes : List EdgeDiff := [⟨(edge 1).key, .removed, edge 1⟩,
      ⟨(edge 2).key, .added, edge 2⟩, ⟨(edge 3).key, .added, edge 3⟩]
    ((of "1" "2" [] changes []).inverse.edges.map fun c =>
        (c.kind, (c.edge.properties.find? "page").bind Value.int?))
      = [(.removed, some 2), (.removed, some 3), (.added, some 1)] := by
  decide +kernel

end SnapshotDiff

end PropertyGraph
