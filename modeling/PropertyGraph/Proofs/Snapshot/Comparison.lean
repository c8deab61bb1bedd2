import PropertyGraph.Proofs.Snapshot.Changes
import PropertyGraph.Proofs.Snapshot.Fields

/-!
# What a comparison finds

The changes that a comparison lists describe the way from what the first snapshot holds to contents
that are equal, element by element, to those of the second: for nodes (`nodeDiffs_describes`), edges
(`edgeDiffs_describes`) and metadata (`metadataChanges_describes`).
-/

namespace PropertyGraph

/-- A list with at most one change for each key describes the way to what the changes lead to. -/
theorem Describes.of_changeAt {δ κ α : Type} {key : δ → κ} {leads : δ → Option α → Option α → Prop}
    {ds : List δ} {f : κ → Option α} {change? : κ → Option δ} (R : κ → Option α → Prop)
    (hnodup : (ds.map key).Nodup) (hmem : ∀ d, d ∈ ds ↔ change? (key d) = some d)
    (hkey : ∀ {k d}, change? k = some d → key d = k)
    (h : ∀ k, ∃ y, R k y ∧ match change? k with
      | some d => leads d (f k) y
      | none => f k = y) :
    ∃ g, Describes key leads ds f g ∧ ∀ k, R k (g k) := by
  choose g hg using h
  refine ⟨g, ⟨hnodup, fun d hd => ?_, fun k hk => ?_⟩, fun k => (hg k).1⟩
  · have hleads := (hg (key d)).2
    rw [(hmem d).mp hd] at hleads
    exact hleads
  · have hleads := (hg k).2
    cases hchange : change? k with
    | none =>
      rw [hchange] at hleads
      exact hleads
    | some d =>
      -- the change would be listed under the key
      obtain rfl := hkey hchange
      exact (hk (List.mem_map_of_mem ((hmem d).mpr hchange))).elim

/-- The edges have the same key and properties of equal values. -/
structure Edge.Same (e f : Edge) : Prop where
  key : e.key = f.key
  properties : Value.equalsProperties e.properties f.properties

theorem Node.Same.refl {n : Node} (h : Value.NaNFreeProperties n.properties) : n.Same n :=
  ⟨rfl, rfl, Value.equalsEntries_self h⟩

theorem Edge.Same.refl {e : Edge} (h : Value.NaNFreeProperties e.properties) : e.Same e :=
  ⟨rfl, Value.equalsEntries_self h⟩

namespace Differ

/-! ### Nodes -/

variable {config : DiffConfig} {before after : SortedMap NodeId Node}

theorem comparatorOf_plain (config : DiffConfig) (n : Node) :
    comparatorOf ⟨config, .empty⟩ n = .fieldwise := by
  have hnone : n.labels.findSome? (SortedMap.empty : SortedMap String NodeComparator).find? = none :=
    List.findSome?_eq_none_iff.mpr fun _ _ => rfl
  unfold comparatorOf
  rw [hnone]
  rfl

theorem id_of_arrival? {d : Differ} {m : Node} {c : NodeDiff} (h : d.arrival? before m = some c) :
    c.id = m.id := by
  unfold arrival? at h
  cases hm : before.find? m.id with
  | none =>
    rw [hm] at h
    obtain rfl := Option.some.inj h
    rfl
  | some n =>
    rw [hm] at h
    dsimp only at h
    split at h
    · cases h
    · obtain rfl := Option.some.inj h
      rfl

/-- The change of the node under an id, if there is one. -/
def nodeChange? (config : DiffConfig) (before after : SortedMap NodeId Node) (id : NodeId) :
    Option NodeDiff :=
  match before.find? id, after.find? id with
  | none, none => none
  | none, some m => some ⟨id, .added, some m, []⟩
  | some n, none => some ⟨id, .removed, some n, []⟩
  | some n, some m =>
    if (NodeComparator.fieldwise config n m).isEmpty then none
    else some ⟨id, .modified, none, NodeComparator.fieldwise config n m⟩

theorem id_of_nodeChange? {id : NodeId} {c : NodeDiff}
    (h : nodeChange? config before after id = some c) : c.id = id := by
  unfold nodeChange? at h
  split at h
  · cases h
  · exact Option.some.inj h ▸ rfl
  · exact Option.some.inj h ▸ rfl
  · split_ifs at h
    exact Option.some.inj h ▸ rfl

/-- What is found for a node of the second snapshot is the change under its id. -/
theorem arrival?_eq {m : Node} (hm : after.find? m.id = some m) :
    arrival? ⟨config, .empty⟩ before m = nodeChange? config before after m.id := by
  unfold arrival? nodeChange?
  rw [hm]
  cases before.find? m.id with
  | none => rfl
  | some n =>
    dsimp only
    rw [comparatorOf_plain]
    cases NodeComparator.fieldwise config n m <;> rfl

theorem mem_nodeDiffs (hbefore : before.KeyedBy Node.id) (hafter : after.KeyedBy Node.id)
    (c : NodeDiff) :
    c ∈ nodeDiffs ⟨config, .empty⟩ before after ↔
      nodeChange? config before after c.id = some c := by
  unfold nodeDiffs
  rw [List.mem_append, List.mem_filterMap, List.mem_map]
  constructor
  · rintro (⟨m, hm, hc⟩ | ⟨n, hn, rfl⟩)
    · rw [arrival?_eq (hafter.mem_values.mp hm)] at hc
      rwa [id_of_nodeChange? hc]
    · obtain ⟨hn, hgone⟩ := List.mem_filter.mp hn
      have habsent : after.find? n.id = none := by simpa [SortedMap.contains] using hgone
      unfold nodeChange?
      rw [hbefore.mem_values.mp hn, habsent]
  · intro h
    cases hm : after.find? c.id with
    | some m =>
      have hid : m.id = c.id := hafter hm
      rw [← hid] at h hm
      exact Or.inl ⟨m, hafter.mem_values.mpr hm, (arrival?_eq hm).trans h⟩
    | none =>
      unfold nodeChange? at h
      rw [hm] at h
      cases hn : before.find? c.id with
      | none =>
        rw [hn] at h
        cases h
      | some n =>
        have hid : n.id = c.id := hbefore hn
        rw [hn] at h
        refine Or.inr ⟨n, List.mem_filter.mpr ⟨SortedMap.mem_values_iff.mpr ⟨_, hn⟩, ?_⟩, ?_⟩
        · unfold SortedMap.contains
          rw [hid, hm]
          rfl
        · rw [hid]
          exact Option.some.inj h

theorem nodup_nodeDiffs (hbefore : before.KeyedBy Node.id) (hafter : after.KeyedBy Node.id) (d : Differ) :
    ((d.nodeDiffs before after).map NodeDiff.id).Nodup := by
  unfold nodeDiffs
  rw [List.map_append]
  refine List.Nodup.append ?_ ?_ fun id hnew hgone => ?_
  · refine List.pairwise_map.mpr (List.Pairwise.filterMap _ (fun m m' hne c hc c' hc' => ?_)
      (List.pairwise_map.mp hafter.nodup))
    rw [id_of_arrival? hc, id_of_arrival? hc']
    exact hne
  · rw [List.map_map]
    exact hbefore.nodup.sublist (List.filter_sublist.map Node.id)
  · obtain ⟨c, hc, rfl⟩ := List.mem_map.mp hnew
    obtain ⟨m, hm, hc⟩ := List.mem_filterMap.mp hc
    rw [id_of_arrival? hc] at hgone
    obtain ⟨_, hc', hid⟩ := List.mem_map.mp hgone
    obtain ⟨n, hn, rfl⟩ := List.mem_map.mp hc'
    have habsent := (List.mem_filter.mp hn).2
    replace hid : n.id = m.id := hid
    unfold SortedMap.contains at habsent
    rw [hid, hafter.mem_values.mp hm] at habsent
    cases habsent

/-- No property of the nodes is null. -/
def NullFree (nodes : SortedMap NodeId Node) : Prop :=
  ∀ {id n}, nodes.find? id = some n → ∀ key, n.property? key ≠ some .null

/-- The changes of nodes lead to nodes equal to the second ones. -/
theorem nodeDiffs_describes (hbefore : before.KeyedBy Node.id) (hafter : after.KeyedBy Node.id)
    (hbeforeNull : NullFree before) (hafterNull : NullFree after)
    (hfree : ∀ {id n}, after.find? id = some n → Value.NaNFreeProperties n.properties)
    (hfaithful : ∀ {id n m}, before.find? id = some n → after.find? id = some m →
      NodeComparator.Faithful config n m) :
    ∃ g, NodeDiff.Describes (nodeDiffs ⟨config, .empty⟩ before after) before.find? g ∧
      ∀ id, Option.Rel Node.Same (g id) (after.find? id) := by
  refine Describes.of_changeAt (fun id y => Option.Rel Node.Same y (after.find? id))
    (nodup_nodeDiffs hbefore hafter _) (mem_nodeDiffs hbefore hafter) id_of_nodeChange? fun id => ?_
  unfold nodeChange?
  cases hn : before.find? id with
  | none =>
    cases hm : after.find? id with
    | none => exact ⟨none, .none, rfl⟩
    | some m => exact ⟨some m, .some (.refl (hfree hm)), .added⟩
  | some n =>
    cases hm : after.find? id with
    | none => exact ⟨none, .none, .removed⟩
    | some m =>
      have hid : n.id = m.id := (hbefore hn).trans (hafter hm).symm
      have hforth := NodeComparator.foldlM_fieldwise config n m n
      have hback := NodeComparator.foldlM_fieldwise config m n (NodeComparator.patched config n m n)
      rw [NodeComparator.patched_patched config (hbeforeNull hn) (hafterNull hm),
        ← NodeComparator.fieldwise_inverse] at hback
      refine ⟨some (NodeComparator.patched config n m n), .some (NodeComparator.patched_same hid
        (hfaithful hn hm) (hbeforeNull hn) (hafterNull hm) (hfree hm)), ?_⟩
      dsimp only
      cases hchanges : NodeComparator.fieldwise config n m with
      | nil =>
        -- without changes the node stays what it was
        rw [hchanges] at hforth
        exact congrArg some (Except.ok.inj hforth)
      | cons c rest =>
        rw [hchanges] at hforth hback
        exact .modified hforth hback

/-! ### Edges -/

variable {old new : SortedMap EdgeKey Edge}

/-- An edge stands in the other map if and only if its counterpart stands in this one. -/
theorem standsIn_comm (hold : old.KeyedBy Edge.key) (hnew : new.KeyedBy Edge.key) {k : EdgeKey}
    {e e' : Edge} (he : old.find? k = some e) (he' : new.find? k = some e') :
    standsIn new e = standsIn old e' := by
  unfold standsIn
  rw [hold he, hnew he', he, he']
  exact Value.equalsProperties_comm _ _

theorem standsIn_absent {edges : SortedMap EdgeKey Edge} {e : Edge}
    (h : edges.find? e.key = none) : standsIn edges e = false := by
  unfold standsIn
  rw [h]

theorem standsIn_present {edges : SortedMap EdgeKey Edge} {e : Edge} (h : standsIn edges e = true) :
    ∃ other, edges.find? e.key = some other ∧
      Value.equalsProperties other.properties e.properties = true := by
  unfold standsIn at h
  cases hother : edges.find? e.key with
  | none =>
    rw [hother] at h
    cases h
  | some other =>
    rw [hother] at h
    exact ⟨other, rfl, h⟩

/-- The edges that differ, as removals or additions. -/
theorem differing_keys {edges : SortedMap EdgeKey Edge} (h : edges.KeyedBy Edge.key)
    (others : SortedMap EdgeKey Edge) (kind : ChangeKind) :
    (((edges.values.filter fun e => !standsIn others e).map fun e =>
      EdgeDiff.mk e.key kind e).map EdgeDiff.key).Nodup ∧
    ∀ {k e}, edges.find? k = some e →
      k ∉ ((edges.values.filter fun e => !standsIn others e).map fun e =>
        EdgeDiff.mk e.key kind e).map EdgeDiff.key → standsIn others e = true := by
  have hkeys : ((edges.values.filter fun e => !standsIn others e).map fun e =>
      EdgeDiff.mk e.key kind e).map EdgeDiff.key
        = (edges.values.filter fun e => !standsIn others e).map Edge.key := List.map_map
  rw [hkeys]
  refine ⟨h.nodup.sublist (List.filter_sublist.map _), fun {k e} he hk => ?_⟩
  by_contra hdiffers
  refine hk (List.mem_map.mpr ⟨e, List.mem_filter.mpr ⟨SortedMap.mem_values_iff.mpr ⟨k, he⟩, ?_⟩,
    h he⟩)
  rw [Bool.not_eq_true] at hdiffers
  rw [hdiffers]
  rfl

/-- The edges of both snapshots. -/
def keptEdges (old new : SortedMap EdgeKey Edge) (k : EdgeKey) : Option Edge :=
  (old.find? k).filter (standsIn new)

theorem removedEdges_describe (hold : old.KeyedBy Edge.key) :
    Describes EdgeDiff.key EdgeDiff.Removes
      ((old.values.filter fun e => !standsIn new e).map fun e => ⟨e.key, .removed, e⟩)
      old.find? (keptEdges old new) := by
  obtain ⟨hnodup, hstands⟩ := differing_keys hold new .removed
  refine ⟨hnodup, fun d hd => ?_, fun k hk => ?_⟩
  · obtain ⟨e, he, rfl⟩ := List.mem_map.mp hd
    obtain ⟨he, hdiffers⟩ := List.mem_filter.mp he
    have hfind : old.find? e.key = some e := hold.mem_values.mp he
    refine ⟨hfind, ?_⟩
    unfold keptEdges
    rw [hfind, Option.filter_some, if_neg]
    simpa using hdiffers
  · unfold keptEdges
    cases he : old.find? k with
    | none => rfl
    | some e =>
      rw [Option.filter_some, if_pos (hstands he hk)]

/-- The edges that are there in the end: kept where they have stood, else new. -/
def finalEdges (old new : SortedMap EdgeKey Edge) (k : EdgeKey) : Option Edge :=
  (new.find? k).bind fun e => if standsIn old e then old.find? k else some e

theorem addedEdges_describe (hold : old.KeyedBy Edge.key) (hnew : new.KeyedBy Edge.key) :
    Describes EdgeDiff.key EdgeDiff.Adds
      ((new.values.filter fun e => !standsIn old e).map fun e => ⟨e.key, .added, e⟩)
      (keptEdges old new) (finalEdges old new) := by
  obtain ⟨hnodup, hstands⟩ := differing_keys hnew old .added
  refine ⟨hnodup, fun d hd => ?_, fun k hk => ?_⟩
  · obtain ⟨e, he, rfl⟩ := List.mem_map.mp hd
    obtain ⟨he, hdiffers⟩ := List.mem_filter.mp he
    rw [Bool.not_eq_true'] at hdiffers
    have hfind : new.find? e.key = some e := hnew.mem_values.mp he
    constructor
    · unfold keptEdges
      cases hother : old.find? e.key with
      | none => rfl
      | some other =>
        rw [Option.filter_some, standsIn_comm hold hnew hother hfind, hdiffers]
        rfl
    · unfold finalEdges
      rw [hfind, Option.bind_some, hdiffers]
      rfl
  · unfold keptEdges finalEdges
    cases he' : new.find? k with
    | none =>
      cases he : old.find? k with
      | none => rfl
      | some e =>
        rw [Option.filter_some, standsIn_absent ((hold he).symm ▸ he')]
        rfl
    | some e' =>
      have hstand := hstands he' hk
      obtain ⟨e, he, -⟩ := standsIn_present hstand
      rw [hnew he'] at he
      rw [he, Option.filter_some, standsIn_comm hold hnew he he', hstand, Option.bind_some, hstand]
      rfl

/-- The changes of edges lead to edges equal to the second ones. -/
theorem edgeDiffs_describes (hold : old.KeyedBy Edge.key) (hnew : new.KeyedBy Edge.key)
    (hfree : ∀ {k e}, new.find? k = some e → Value.NaNFreeProperties e.properties) :
    ∃ g, EdgeDiff.Describes (edgeDiffs old new) old.find? g ∧
      ∀ k, Option.Rel Edge.Same (g k) (new.find? k) := by
  have hfilter : ∀ (es : List Edge) (kind kind' : ChangeKind),
      (es.map fun e => EdgeDiff.mk e.key kind e).filter (fun d => d.kind == kind')
        = if kind = kind' then es.map fun e => EdgeDiff.mk e.key kind e else [] := by
    intro es kind kind'
    rw [List.filter_map]
    split_ifs with hkind
    · exact congrArg (List.map _) (List.filter_eq_self.mpr fun e _ => beq_iff_eq.mpr hkind)
    · exact congrArg (List.map _) (List.filter_eq_nil_iff.mpr fun e _ h => hkind (eq_of_beq h))
  refine ⟨finalEdges old new, ⟨keptEdges old new, ?_, ?_⟩, fun k => ?_⟩
  · unfold edgeDiffs
    rw [List.filter_append, hfilter, hfilter, if_pos rfl, if_neg nofun, List.append_nil]
    exact removedEdges_describe hold
  · unfold edgeDiffs
    rw [List.filter_append, hfilter, hfilter, if_neg nofun, if_pos rfl, List.nil_append]
    exact addedEdges_describe hold hnew
  · unfold finalEdges
    cases he' : new.find? k with
    | none => exact .none
    | some e' =>
      rw [Option.bind_some]
      split_ifs with hstand
      · obtain ⟨e, he, hequal⟩ := standsIn_present hstand
        rw [hnew he'] at he
        rw [he]
        exact .some ⟨(hold he).trans (hnew he').symm, hequal⟩
      · exact .some (.refl (hfree he'))

/-! ### Metadata -/

variable {data data' : SortedMap String Value}

theorem key_of_metadataChange? {key : String} {c : MetadataChange}
    (h : metadataChange? data data' key = some c) : c.key = key := by
  unfold metadataChange? at h
  dsimp only at h
  split_ifs at h
  exact Option.some.inj h ▸ rfl

theorem mem_metadataChanges (c : MetadataChange) :
    c ∈ metadataChanges data data' ↔ metadataChange? data data' c.key = some c := by
  unfold metadataChanges
  rw [List.mem_filterMap]
  constructor
  · rintro ⟨key, -, hc⟩
    rw [key_of_metadataChange? hc]
    exact hc
  · intro hc
    refine ⟨c.key, ?_, hc⟩
    rw [SortedMap.mem_keys_iff, SortedMap.find?_union]
    by_contra hnone
    rw [Option.not_isSome_iff_eq_none, Option.or_eq_none_iff] at hnone
    unfold metadataChange? at hc
    rw [hnone.1, hnone.2] at hc
    cases hc

theorem nodup_metadataChanges (data data' : SortedMap String Value) :
    ((metadataChanges data data').map MetadataChange.key).Nodup := by
  refine List.pairwise_map.mpr (List.Pairwise.filterMap _ (fun k k' hne c hc c' hc' => ?_)
    (data.union data').nodup_keys)
  rw [key_of_metadataChange? hc, key_of_metadataChange? hc']
  exact hne

/-- The changes of metadata lead to metadata equal to the second one. -/
theorem metadataChanges_describes (data : SortedMap String Value)
    (hfree : Value.NaNFreeProperties data') :
    ∃ g, MetadataChange.Describes (metadataChanges data data') data.find? g ∧
      ∀ key, Option.Rel Value.Equal (g key) (data'.find? key) := by
  refine Describes.of_changeAt
    (fun key y => Option.Rel Value.Equal y (data'.find? key)) (nodup_metadataChanges data data')
    mem_metadataChanges key_of_metadataChange? fun key => ?_
  unfold metadataChange?
  dsimp only
  split_ifs with hsame
  · exact ⟨data.find? key, rel_of_sameMetadata hsame, rfl⟩
  · exact ⟨data'.find? key, Value.rel_self fun v hv => Value.equals_self (hfree.find? hv), rfl, rfl⟩

/-! ### Snapshots -/

/-- Snapshots with versions can be compared. -/
theorem compare_eq {a b : GraphSnapshot} (d : Differ) (ha : a.version ≠ "") (hb : b.version ≠ "") :
    d.compare a b = .ok (.of a.version b.version
      (d.nodeDiffs (nodesById a.nodes) (nodesById b.nodes))
      (edgeDiffs (edgesByKey a.edges) (edgesByKey b.edges))
      (metadataChanges a.metadata b.metadata)) := by
  unfold compare requireVersion
  rw [if_neg ha, if_neg hb]
  rfl

end Differ

end PropertyGraph
