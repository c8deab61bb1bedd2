import PropertyGraph.Proofs.Snapshot.RoundTrip

/-!
# Snapshots without changes

The diff of two snapshots is empty exactly where nothing has changed from the one to the other
(`Differ.compare_isEmpty`).  What counts as a change is said without reference to the comparison
(`GraphSnapshot.Unchanged`), and for each sort of elements in its own way: a null property of a node is
as good as none, while edges and metadata tell the two apart; labels are a set; and properties that are
ignored may differ in nodes, but not in edges.

The comparison looks elements up by their names in maps.  So for each sort of elements the list of
changes is empty where the maps are alike key by key.
-/

namespace PropertyGraph

/-! ### What has not changed -/

/-- The same keys have the same values, up to the signs of zeros. -/
def Value.SameProperties (ps qs : PropertyMap) : Prop :=
  ∀ key, (ps.find? key).map unsignedZeros = (qs.find? key).map unsignedZeros

/-- The nodes have the same labels, and the same values of all properties but the ignored ones.  A
property that is null is as good as none. -/
structure Node.Alike (ignored : List String) (n m : Node) : Prop where
  labels : ∀ label, label ∈ n.labels ↔ label ∈ m.labels
  properties : ∀ key, key ∉ ignored →
    ((n.property? key).getD .null).unsignedZeros = ((m.property? key).getD .null).unsignedZeros

/-- The snapshots name the same nodes and the same edges.  Nodes of one id are alike, edges of one key
have the same properties, and the metadata are the same. -/
structure GraphSnapshot.Unchanged (ignored : List String) (a b : GraphSnapshot) : Prop where
  ids : ∀ id, id ∈ a.nodes.map Node.id ↔ id ∈ b.nodes.map Node.id
  nodes : ∀ n ∈ a.nodes, ∀ m ∈ b.nodes, n.id = m.id → n.Alike ignored m
  keys : ∀ k, k ∈ a.edges.map Edge.key ↔ k ∈ b.edges.map Edge.key
  edges : ∀ e ∈ a.edges, ∀ f ∈ b.edges, e.key = f.key →
    Value.SameProperties e.properties f.properties
  metadata : Value.SameProperties a.metadata b.metadata

/-- No two nodes have one id, and no two edges one key. -/
structure GraphSnapshot.NamesOnce (s : GraphSnapshot) : Prop where
  ids : (s.nodes.map Node.id).Nodup
  keys : (s.edges.map Edge.key).Nodup

/-! ### Values -/

theorem Value.equalsProperties_iff {ps qs : PropertyMap} (hps : NaNFreeProperties ps) :
    equalsProperties ps qs = true ↔ SameProperties ps qs := by
  rw [equalsProperties_iff_rel]
  exact forall_congr' fun key => rel_iff fun v hv => hps.find? hv

/-- What stands for a property that may be absent has no NaN either. -/
theorem Value.NaNFreeProperties.getD_null {ps : PropertyMap} (h : NaNFreeProperties ps) (key : String) :
    ((ps.find? key).getD .null).isNaNFree = true := by
  cases hfind : ps.find? key with
  | none => rfl
  | some v => exact h.find? hfind

namespace NodeComparator

theorem sameLabels_iff {a b : List String} :
    sameLabels a b = true ↔ ∀ label, label ∈ a ↔ label ∈ b := by
  unfold sameLabels
  simp only [Bool.and_eq_true, List.all_eq_true, List.contains_eq_mem, decide_eq_true_eq]
  constructor
  · rintro ⟨hab, hba⟩ label
    exact ⟨hab label, hba label⟩
  · intro h
    exact ⟨fun label => (h label).mp, fun label => (h label).mpr⟩

theorem labelChanges_eq_nil_iff {n m : Node} :
    labelChanges n m = [] ↔ ∀ label, label ∈ n.labels ↔ label ∈ m.labels := by
  rw [← sameLabels_iff]
  unfold labelChanges
  split_ifs with hsame
  · exact iff_of_true rfl hsame
  · exact iff_of_false nofun hsame

variable {config : DiffConfig} {n m : Node}

/-- A key under which neither node has a property is never among the changed ones. -/
theorem changedKeys_eq_nil_iff :
    changedKeys config n m = [] ↔ ∀ key, key ∉ config.ignoreFields →
      ((n.property? key).getD .null).equals ((m.property? key).getD .null) = true := by
  rw [List.eq_nil_iff_forall_not_mem]
  constructor
  · intro h key hkey
    by_contra hdiffers
    rw [Bool.not_eq_true] at hdiffers
    refine h key ((mem_changedKeys ..).mpr ⟨?_, hkey, hdiffers⟩)
    by_contra hnone
    rw [not_or, Option.not_isSome_iff_eq_none, Option.not_isSome_iff_eq_none] at hnone
    rw [hnone.1, hnone.2] at hdiffers
    cases hdiffers
  · intro h key hchanged
    obtain ⟨-, hkey, hdiffers⟩ := (mem_changedKeys ..).mp hchanged
    rw [h key hkey] at hdiffers
    cases hdiffers

/-- The comparison field by field finds no change exactly where the nodes are alike. -/
theorem fieldwise_eq_nil_iff (hn : Value.NaNFreeProperties n.properties) :
    fieldwise config n m = [] ↔ n.Alike config.ignoreFields m := by
  rw [fieldwise_eq, List.append_eq_nil_iff, List.map_eq_nil_iff, labelChanges_eq_nil_iff,
    changedKeys_eq_nil_iff]
  have hvalue : ∀ key, ((n.property? key).getD .null).isNaNFree = true := fun key => hn.getD_null key
  constructor
  · rintro ⟨hlabels, hsame⟩
    exact ⟨hlabels, fun key hkey => (Value.equals_iff (hvalue key)).mp (hsame key hkey)⟩
  · intro h
    exact ⟨h.labels, fun key hkey => (Value.equals_iff (hvalue key)).mpr (h.properties key hkey)⟩

end NodeComparator

/-! ### Lists of changes -/

theorem SnapshotDiff.isEmpty_of_iff {v w : String} {nodes : List NodeDiff} {edges : List EdgeDiff}
    {metadata : List MetadataChange} :
    (of v w nodes edges metadata).isEmpty = true ↔ nodes = [] ∧ edges = [] ∧ metadata = [] := by
  have hsort : ∀ {α : Type} (cmp : α → α → Ordering) (xs : List α),
      stableSortBy cmp xs = [] ↔ xs = [] := by
    intro α cmp xs
    have hperm : (stableSortBy cmp xs).Perm xs := stableSort_perm ..
    constructor
    · intro h
      exact List.nil_perm.mp (h ▸ hperm)
    · intro h
      exact List.perm_nil.mp (h ▸ hperm)
  unfold isEmpty of
  simp only [Bool.and_eq_true, List.isEmpty_iff, hsort, and_assoc]

/-- A list with at most one change for each key is empty if there is no change. -/
theorem eq_nil_iff_of_changeAt {δ κ : Type} {key : δ → κ} {ds : List δ} {change? : κ → Option δ}
    (hmem : ∀ d, d ∈ ds ↔ change? (key d) = some d)
    (hkey : ∀ {k d}, change? k = some d → key d = k) : ds = [] ↔ ∀ k, change? k = none := by
  rw [List.eq_nil_iff_forall_not_mem]
  constructor
  · intro h k
    by_contra hsome
    obtain ⟨d, hd⟩ := Option.ne_none_iff_exists'.mp hsome
    apply h d
    rw [hmem, hkey hd]
    exact hd
  · intro h d hd
    rw [hmem, h] at hd
    cases hd

namespace Differ

theorem sameMetadata_iff {x y : Option Value} :
    sameMetadata x y = true ↔ Option.Rel Value.Equal x y := by
  refine ⟨rel_of_sameMetadata, fun h => ?_⟩
  cases h with
  | some h => exact h
  | none => rfl

theorem nodeDiffs_eq_nil_iff {config : DiffConfig} {before after : SortedMap NodeId Node}
    (hbefore : before.KeyedBy Node.id) (hafter : after.KeyedBy Node.id)
    (hfree : ∀ {id n}, before.find? id = some n → Value.NaNFreeProperties n.properties) :
    nodeDiffs ⟨config, .empty⟩ before after = [] ↔
      ∀ id, Option.Rel (Node.Alike config.ignoreFields) (before.find? id) (after.find? id) := by
  rw [eq_nil_iff_of_changeAt (mem_nodeDiffs hbefore hafter) id_of_nodeChange?]
  refine forall_congr' fun id => ?_
  unfold nodeChange?
  cases hn : before.find? id with
  | none =>
    cases after.find? id with
    | none => exact iff_of_true rfl .none
    | some m => exact iff_of_false nofun nofun
  | some n =>
    cases after.find? id with
    | none => exact iff_of_false nofun nofun
    | some m =>
      rw [Option.rel_some_some, ← NodeComparator.fieldwise_eq_nil_iff (hfree hn), ← List.isEmpty_iff]
      dsimp only
      split_ifs with hempty
      · exact iff_of_true rfl hempty
      · exact iff_of_false nofun hempty

theorem edgeDiffs_eq_nil_iff {old new : SortedMap EdgeKey Edge} (hold : old.KeyedBy Edge.key)
    (hnew : new.KeyedBy Edge.key)
    (hfree : ∀ {k e}, old.find? k = some e → Value.NaNFreeProperties e.properties) :
    edgeDiffs old new = [] ↔
      ∀ k, Option.Rel (fun e f => Value.SameProperties e.properties f.properties) (old.find? k)
        (new.find? k) := by
  have hstand : edgeDiffs old new = [] ↔
      (∀ e ∈ old.values, standsIn new e = true) ∧ ∀ e ∈ new.values, standsIn old e = true := by
    unfold edgeDiffs
    simp only [List.append_eq_nil_iff, List.map_eq_nil_iff, List.filter_eq_nil_iff,
      Bool.not_eq_true', Bool.not_eq_false]
  rw [hstand]
  constructor
  · rintro ⟨hstays, hstood⟩ k
    cases he : old.find? k with
    | some e =>
      obtain ⟨f, hf, hequal⟩ := standsIn_present (hstays e (SortedMap.mem_values_iff.mpr ⟨k, he⟩))
      rw [hold he] at hf
      rw [Value.equalsProperties_comm, Value.equalsProperties_iff (hfree he)] at hequal
      rw [hf]
      exact .some hequal
    | none =>
      cases hf : new.find? k with
      | none => exact .none
      | some f =>
        obtain ⟨e, he', -⟩ := standsIn_present (hstood f (SortedMap.mem_values_iff.mpr ⟨k, hf⟩))
        rw [hnew hf, he] at he'
        cases he'
  · intro h
    have hboth : ∀ k e f, old.find? k = some e → new.find? k = some f → standsIn new e = true := by
      intro k e f he hf
      have hk := h k
      rw [he, hf] at hk
      cases hk with
      | some hsame =>
        unfold standsIn
        rw [hold he, hf]
        dsimp only
        rw [Value.equalsProperties_comm, Value.equalsProperties_iff (hfree he)]
        exact hsame
    refine ⟨fun e hmem => ?_, fun f hmem => ?_⟩
    · obtain ⟨k, he⟩ := SortedMap.mem_values_iff.mp hmem
      cases hf : new.find? k with
      | some f => exact hboth k e f he hf
      | none =>
        have hk := h k
        rw [he, hf] at hk
        cases hk
    · obtain ⟨k, hf⟩ := SortedMap.mem_values_iff.mp hmem
      cases he : old.find? k with
      | some e =>
        rw [← standsIn_comm hold hnew he hf]
        exact hboth k e f he hf
      | none =>
        have hk := h k
        rw [he, hf] at hk
        cases hk

theorem metadataChanges_eq_nil_iff {data data' : SortedMap String Value}
    (hfree : Value.NaNFreeProperties data) :
    metadataChanges data data' = [] ↔ Value.SameProperties data data' := by
  rw [eq_nil_iff_of_changeAt mem_metadataChanges key_of_metadataChange?]
  refine forall_congr' fun key => ?_
  rw [← Value.rel_iff fun v hv => hfree.find? hv, ← sameMetadata_iff]
  unfold metadataChange?
  dsimp only
  split_ifs with hsame
  · exact iff_of_true rfl hsame
  · exact iff_of_false not_false hsame

/-! ### Snapshots -/

/-- No change is found between snapshots exactly where all that they name has stayed the same. -/
theorem changes_eq_nil_iff {config : DiffConfig} {a b : GraphSnapshot} (ha : a.NamesOnce)
    (hb : b.NamesOnce) (hfree : a.NaNFree) :
    (nodeDiffs ⟨config, .empty⟩ (nodesById a.nodes) (nodesById b.nodes) = [] ∧
        edgeDiffs (edgesByKey a.edges) (edgesByKey b.edges) = [] ∧
        metadataChanges a.metadata b.metadata = []) ↔
      a.Unchanged config.ignoreFields b := by
  have hnode : ∀ {id n}, (nodesById a.nodes).find? id = some n →
      Value.NaNFreeProperties n.properties := by
    intro id n hn
    exact hfree.nodes n ((SortedMap.find?_ofList_elements ha.ids).mp hn).1
  have hedge : ∀ {k e}, (edgesByKey a.edges).find? k = some e →
      Value.NaNFreeProperties e.properties := by
    intro k e he
    exact hfree.edges e ((SortedMap.find?_ofList_elements ha.keys).mp he).1
  have hids : (nodesById a.nodes).KeyedBy Node.id := SortedMap.keyedBy_ofList _
  have hids' : (nodesById b.nodes).KeyedBy Node.id := SortedMap.keyedBy_ofList _
  have hkeys : (edgesByKey a.edges).KeyedBy Edge.key := SortedMap.keyedBy_ofList _
  have hkeys' : (edgesByKey b.edges).KeyedBy Edge.key := SortedMap.keyedBy_ofList _
  rw [nodeDiffs_eq_nil_iff hids hids' hnode, edgeDiffs_eq_nil_iff hkeys hkeys' hedge,
    metadataChanges_eq_nil_iff hfree.metadata]
  unfold nodesById edgesByKey
  rw [SortedMap.rel_elements_iff ha.ids hb.ids, SortedMap.rel_elements_iff ha.keys hb.keys]
  constructor
  · rintro ⟨⟨hids, hnodes⟩, ⟨hkeys, hedges⟩, hmetadata⟩
    exact ⟨hids, hnodes, hkeys, hedges, hmetadata⟩
  · intro h
    exact ⟨⟨h.ids, h.nodes⟩, ⟨h.keys, h.edges⟩, h.metadata⟩

/-- **Empty diffs.**  Let two snapshots have versions and name no node and no edge twice, and let there
be no NaN in the first.  They can be compared, whatever is ignored, and their diff is empty if and only
if nothing has changed from the one to the other. -/
theorem compare_isEmpty (config : DiffConfig) {a b : GraphSnapshot} (ha : a.version ≠ "")
    (hb : b.version ≠ "") (haNames : a.NamesOnce) (hbNames : b.NamesOnce) (hfree : a.NaNFree) :
    ∃ diff, (Differ.mk config .empty).compare a b = .ok diff ∧
      (diff.isEmpty = true ↔ a.Unchanged config.ignoreFields b) := by
  refine ⟨_, compare_eq _ ha hb, ?_⟩
  rw [SnapshotDiff.isEmpty_of_iff]
  exact changes_eq_nil_iff haNames hbNames hfree

/-- A snapshot with a null property, a null piece of metadata and a zero. -/
def catalogue : GraphSnapshot :=
  (GraphSnapshot.of "1"
    [⟨"b", ["Book", "Old"], .ofList [("price", .float .zero), ("_version", .int 1)]⟩,
      ⟨"a", ["Author"], .ofList [("died", .null)]⟩]
    [⟨"a", "b", "wrote", .ofList [("year", .null)]⟩]).withMetadata "note" .null

/-- The same in another order: labels are repeated, the zero is negative, what was null has gone, and
an ignored property has changed. -/
def recatalogued : GraphSnapshot :=
  (GraphSnapshot.of "2"
    [⟨"a", ["Author"], .empty⟩,
      ⟨"b", ["Old", "Book", "Old"], .ofList [("price", .float .negativeZero), ("_version", .int 2)]⟩]
    [⟨"a", "b", "wrote", .ofList [("year", .null)]⟩]).withMetadata "note" .null

theorem compare_isEmpty_recatalogued :
    catalogue.version ≠ "" ∧ recatalogued.version ≠ "" ∧ catalogue.NamesOnce ∧
      recatalogued.NamesOnce ∧ catalogue.NaNFree ∧
      ∃ diff, (Differ.mk {} .empty).compare catalogue recatalogued = .ok diff ∧
        diff.isEmpty = true ∧ catalogue.Unchanged ({} : DiffConfig).ignoreFields recatalogued := by
  have hnames : catalogue.NamesOnce := ⟨by decide +kernel, by decide +kernel⟩
  have hnames' : recatalogued.NamesOnce := ⟨by decide +kernel, by decide +kernel⟩
  have hfree : catalogue.NaNFree := by
    refine ⟨?_, ?_, ?_⟩ <;> unfold Value.NaNFreeProperties <;> decide +kernel
  obtain ⟨diff, hdiff, hempty⟩ :=
    compare_isEmpty {} (show catalogue.version ≠ "" by decide)
      (show recatalogued.version ≠ "" by decide) hnames hnames' hfree
  have hnothing : ((Differ.mk {} .empty).compare catalogue recatalogued).toOption.map
      SnapshotDiff.isEmpty = some true := by decide +kernel
  rw [hdiff] at hnothing
  have hisEmpty : diff.isEmpty = true := Option.some.inj hnothing
  exact ⟨by decide, by decide, hnames, hnames', hfree, diff, hdiff, hisEmpty, hempty.mp hisEmpty⟩

end Differ

end PropertyGraph
