import PropertyGraph.Proofs.Snapshot.Comparison

/-!
# Diffs lead from one snapshot to another and back

The diff between two snapshots can be applied to the first, which gives the contents of the second,
and its inverse can be applied to the result, which gives the contents of the first
(`Differ.roundTrip`).  The way there ends at elements that are equal to those of the second
snapshot, since a value that is equal to the old one is not reported; the way back restores the
first snapshot as it was.
-/

namespace PropertyGraph

/-! ### Snapshots -/

namespace GraphSnapshot

/-- A snapshot of nodes and edges in any order, with any metadata. -/
inductive Built : GraphSnapshot → Prop where
  | of (version : String) (nodes : List Node) (edges : List Edge) : Built (of version nodes edges)
  | withMetadata {s : GraphSnapshot} (h : Built s) (key : String) (value : Value) :
      Built (s.withMetadata key value)
  | capturedAt {s : GraphSnapshot} (h : Built s) (time : Option Instant) :
      Built { s with capturedAt := time }

variable {s : GraphSnapshot}

theorem Built.nodes_sorted (h : s.Built) :
    s.nodes.Pairwise fun m n => (compare m.id n.id).isLE := by
  induction h with
  | of version nodes edges => exact stableSortBy_sorted (compareOn Node.id) nodes
  | withMetadata _ _ _ ih => exact ih
  | capturedAt _ _ ih => exact ih

theorem Built.edges_sorted (h : s.Built) :
    s.edges.Pairwise fun e f => (compare e.key f.key).isLE := by
  induction h with
  | of version nodes edges => exact stableSortBy_sorted (compareOn Edge.key) edges
  | withMetadata _ _ _ ih => exact ih
  | capturedAt _ _ ih => exact ih

/-- A snapshot with a version that names no element twice and has no node with a null property. -/
structure Proper (s : GraphSnapshot) : Prop where
  built : s.Built
  version : s.version ≠ ""
  nodup_ids : (s.nodes.map Node.id).Nodup
  nodup_keys : (s.edges.map Edge.key).Nodup
  nullFree : ∀ n ∈ s.nodes, ∀ v ∈ n.properties.values, v.isNull = false

/-- There is no NaN in a snapshot. -/
structure NaNFree (s : GraphSnapshot) : Prop where
  nodes : ∀ n ∈ s.nodes, Value.NaNFreeProperties n.properties
  edges : ∀ e ∈ s.edges, Value.NaNFreeProperties e.properties
  metadata : Value.NaNFreeProperties s.metadata

/-- The snapshots have the same version, and equal nodes, edges and metadata. -/
structure Same (s t : GraphSnapshot) : Prop where
  version : s.version = t.version
  nodes : List.Forall₂ Node.Same s.nodes t.nodes
  edges : List.Forall₂ Edge.Same s.edges t.edges
  metadata : Value.equalsProperties s.metadata t.metadata

theorem Proper.values_nodesById (h : s.Proper) : (Differ.nodesById s.nodes).values = s.nodes :=
  SortedMap.values_ofList h.nodup_ids h.built.nodes_sorted

theorem Proper.values_edgesByKey (h : s.Proper) : (Differ.edgesByKey s.edges).values = s.edges :=
  SortedMap.values_ofList h.nodup_keys h.built.edges_sorted

theorem Proper.find?_nodesById (h : s.Proper) {id : NodeId} {n : Node} :
    (Differ.nodesById s.nodes).find? id = some n ↔ n ∈ s.nodes ∧ n.id = id :=
  SortedMap.find?_ofList_elements h.nodup_ids

theorem Proper.property?_ne_null (h : s.Proper) {n : Node} (hn : n ∈ s.nodes) (key : String) :
    n.property? key ≠ some .null := by
  intro hnull
  have hfalse := h.nullFree n hn .null (SortedMap.mem_values_iff.mpr ⟨key, hnull⟩)
  cases hfalse

theorem Proper.find?_edgesByKey (h : s.Proper) {k : EdgeKey} {e : Edge} :
    (Differ.edgesByKey s.edges).find? k = some e ↔ e ∈ s.edges ∧ e.key = k :=
  SortedMap.find?_ofList_elements h.nodup_keys

end GraphSnapshot

/-! ### Contents -/

/-- Equal elements are looked up. -/
structure Contents.Same (x y : Contents) : Prop where
  node? : ∀ id, Option.Rel Node.Same (x.node? id) (y.node? id)
  edge? : ∀ k, Option.Rel Edge.Same (x.edge? k) (y.edge? k)
  metadata? : ∀ key, Option.Rel Value.Equal (x.metadata? key) (y.metadata? key)

theorem keyedBy_of_rel {κ α : Type} [Ord κ] [DecidableEq κ] {m m' : SortedMap κ α} {key : α → κ}
    {R : α → α → Prop} (hR : ∀ x y, R x y → key x = key y)
    (h : ∀ k, Option.Rel R (m.find? k) (m'.find? k)) (hm' : m'.KeyedBy key) : m.KeyedBy key := by
  intro k x hx
  have hk := h k
  rw [hx] at hk
  generalize hy : m'.find? k = y at hk
  cases hk with
  | some hr => exact (hR _ _ hr).trans (hm' hy)

/-! ### There and back -/

namespace Differ

variable {config : DiffConfig} {a b : GraphSnapshot}

/-- The diff between two snapshots leads from the contents of the first to contents that are equal,
element by element, to those of the second. -/
theorem compare_leads (ha : a.Proper) (hb : b.Proper) (hfree : b.NaNFree)
    (hfaithful : ∀ n ∈ a.nodes, ∀ m ∈ b.nodes, n.id = m.id → NodeComparator.Faithful config n m) :
    ∃ diff y, (Differ.mk config .empty).compare a b = .ok diff ∧ diff.fromVersion = a.version ∧
      diff.toVersion = b.version ∧ diff.Leads a.contents y ∧ y.Same b.contents := by
  have hbefore : (nodesById a.nodes).KeyedBy Node.id := SortedMap.keyedBy_ofList _
  have hafter : (nodesById b.nodes).KeyedBy Node.id := SortedMap.keyedBy_ofList _
  have hold : (edgesByKey a.edges).KeyedBy Edge.key := SortedMap.keyedBy_ofList _
  have hnew : (edgesByKey b.edges).KeyedBy Edge.key := SortedMap.keyedBy_ofList _
  have hfaithful' : ∀ {id n m}, (nodesById a.nodes).find? id = some n →
      (nodesById b.nodes).find? id = some m → NodeComparator.Faithful config n m := by
    intro id n m hn hm
    rw [ha.find?_nodesById] at hn
    rw [hb.find?_nodesById] at hm
    exact hfaithful n hn.1 m hm.1 (hn.2.trans hm.2.symm)
  obtain ⟨nodes, hnodes, hnodesSame⟩ := nodeDiffs_describes hbefore hafter
    (fun hn => ha.property?_ne_null (ha.find?_nodesById.mp hn).1)
    (fun hm => hb.property?_ne_null (hb.find?_nodesById.mp hm).1)
    (fun hm => hfree.nodes _ (hb.find?_nodesById.mp hm).1) hfaithful'
  obtain ⟨edges, hedges, hedgesSame⟩ := edgeDiffs_describes hold hnew
    fun he => hfree.edges _ (hb.find?_edgesByKey.mp he).1
  obtain ⟨metadata, hmetadata, hmetadataSame⟩ :=
    metadataChanges_describes a.metadata hfree.metadata
  exact ⟨_, ⟨nodes, edges, metadata⟩, compare_eq _ ha.version hb.version, rfl, rfl,
    SnapshotDiff.leads_of hnodes hedges hmetadata, hnodesSame, hedgesSame, hmetadataSame⟩

/-- The diff between two snapshots leads from the first to the second, and its inverse back. -/
theorem roundTrip (ha : a.Proper) (hb : b.Proper) (hfree : b.NaNFree)
    (hfaithful : ∀ n ∈ a.nodes, ∀ m ∈ b.nodes, n.id = m.id → NodeComparator.Faithful config n m) :
    ∃ diff r r', (Differ.mk config .empty).compare a b = .ok diff ∧
      a.apply diff = .ok r ∧ r.Same b ∧
      r.apply diff.inverse = .ok r' ∧ r'.version = a.version ∧ r'.nodes = a.nodes ∧
        r'.edges = a.edges ∧ r'.metadata = a.metadata := by
  obtain ⟨diff, y, hcompare, hfrom, hto, hleads, hsame⟩ := compare_leads ha hb hfree hfaithful
  obtain ⟨nodes, edges, metadata, happly, rfl⟩ := hleads.apply hfrom
  have hnodes : nodes.KeyedBy Node.id :=
    keyedBy_of_rel (fun _ _ h => h.id) hsame.node? (SortedMap.keyedBy_ofList _)
  have hedges : edges.KeyedBy Edge.key :=
    keyedBy_of_rel (fun _ _ h => h.key) hsame.edge? (SortedMap.keyedBy_ofList _)
  have hthere : (GraphSnapshot.ofMaps diff.toVersion nodes edges metadata).Same b := by
    refine ⟨hto, ?_, ?_, Value.equalsProperties_of_rel hsame.metadata?⟩
    · have hvalues := SortedMap.forall₂_values hsame.node?
      rwa [hb.values_nodesById] at hvalues
    · have hvalues := SortedMap.forall₂_values hsame.edge?
      rwa [hb.values_edgesByKey] at hvalues
  -- the inverse starts from what the maps of the result hold
  have hinverse := hleads.inverse
  rw [← GraphSnapshot.contents_ofMaps hnodes hedges] at hinverse
  obtain ⟨nodes', edges', metadata', hback, hcontents⟩ := hinverse.apply rfl
  obtain ⟨hnodes', hedges', hmetadata'⟩ := Contents.mk.inj hcontents
  have hnodesBack : nodesById a.nodes = nodes' := SortedMap.ext_find? fun id => congrFun hnodes' id
  have hedgesBack : edgesByKey a.edges = edges' := SortedMap.ext_find? fun k => congrFun hedges' k
  refine ⟨diff, _, _, hcompare, happly, hthere, hback, hfrom, ?_, ?_, ?_⟩
  · exact hnodesBack ▸ ha.values_nodesById
  · exact hedgesBack ▸ ha.values_edgesByKey
  · exact (SortedMap.ext_find? fun key => congrFun hmetadata' key).symm

/-- A snapshot with a piece of metadata that is null. -/
def firstEdition : GraphSnapshot :=
  (GraphSnapshot.of "1"
    [⟨"b", ["Person"], .ofList [("name", .string "Ada"), ("age", .int 36)]⟩, ⟨"a", [], .empty⟩]
    [⟨"b", "b", "cites", .ofList [("page", .int 1)]⟩, ⟨"b", "a", "knows", .empty⟩]).withMetadata
      "note" .null

/-- A later snapshot in which nodes and edges have come, gone and changed. -/
def secondEdition : GraphSnapshot :=
  (GraphSnapshot.of "2"
    [⟨"c", [], .empty⟩, ⟨"b", ["Person", "Author"], .ofList [("name", .string "Ada")]⟩]
    [⟨"b", "b", "cites", .ofList [("page", .int 2)]⟩, ⟨"b", "c", "knows", .empty⟩]).withMetadata
      "owner" (.string "ops")

theorem roundTrip_editions :
    ∃ diff r r', (Differ.mk {} .empty).compare firstEdition secondEdition = .ok diff ∧
      firstEdition.apply diff = .ok r ∧ r.Same secondEdition ∧
      r.apply diff.inverse = .ok r' ∧ r'.version = firstEdition.version ∧
        r'.nodes = firstEdition.nodes ∧ r'.edges = firstEdition.edges ∧
        r'.metadata = firstEdition.metadata := by
  have hfirst : firstEdition.Proper :=
    ⟨.withMetadata (.of ..) .., by decide, by decide +kernel, by decide +kernel, by decide +kernel⟩
  have hsecond : secondEdition.Proper :=
    ⟨.withMetadata (.of ..) .., by decide, by decide +kernel, by decide +kernel, by decide +kernel⟩
  have hfree : secondEdition.NaNFree := by
    refine ⟨?_, ?_, ?_⟩ <;> unfold Value.NaNFreeProperties <;> decide +kernel
  refine roundTrip hfirst hsecond hfree fun n hn m hm hid => ?_
  have hlabels : ∀ n ∈ firstEdition.nodes, ∀ m ∈ secondEdition.nodes, n.id = m.id →
      NodeComparator.sameLabels n.labels m.labels → n.labels = m.labels := by decide +kernel
  have hignored : ∀ n ∈ firstEdition.nodes, ∀ m ∈ secondEdition.nodes, n.id = m.id →
      ∀ key ∈ ({} : DiffConfig).ignoreFields,
        sameMetadata (n.property? key) (m.property? key) := by decide +kernel
  exact ⟨hlabels n hn m hm hid, hignored n hn m hm hid⟩

end Differ

end PropertyGraph
