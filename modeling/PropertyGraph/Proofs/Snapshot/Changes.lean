import PropertyGraph.Proofs.Collection.SortedMap
import PropertyGraph.Snapshot.Apply

/-!
# What a list of changes says

A change of an element leads from what is looked up under its key before to what is looked up
after.  A list of changes describes the step between two lookups if no two of its changes are of the
same element and nothing else is different (`Describes`).  Making the changes then takes the one
lookup to the other (`Describes.foldlM`), and the changes turned round describe the way back
(`Describes.inverse`).

So a diff that leads from the contents of a snapshot to others can be applied
(`SnapshotDiff.Leads.apply`), and its inverse leads back (`SnapshotDiff.Leads.inverse`).
-/

namespace PropertyGraph

/-- The changes lead from one lookup to the other, each at its key, and nothing else differs. -/
structure Describes {δ κ α : Type} (key : δ → κ) (leads : δ → Option α → Option α → Prop)
    (ds : List δ) (f g : κ → Option α) : Prop where
  nodup : (ds.map key).Nodup
  leads : ∀ d ∈ ds, leads d (f (key d)) (g (key d))
  rest : ∀ k, k ∉ ds.map key → f k = g k

namespace Describes

variable {δ κ α : Type} {key : δ → κ} {leads : δ → Option α → Option α → Prop} {ds ds' : List δ}
  {f g : κ → Option α}

theorem perm (h : Describes key leads ds f g) (hperm : ds'.Perm ds) :
    Describes key leads ds' f g where
  nodup := (hperm.map key).nodup_iff.mpr h.nodup
  leads d hd := h.leads d (hperm.mem_iff.mp hd)
  rest k hk := h.rest k fun hmem => hk ((hperm.map key).mem_iff.mpr hmem)

/-- Changes that are turned round describe the way back. -/
theorem inverse {leads' : δ → Option α → Option α → Prop} {turn : δ → δ}
    (hkey : ∀ d, key (turn d) = key d) (hleads : ∀ d x y, leads d x y → leads' (turn d) y x)
    (h : Describes key leads ds f g) : Describes key leads' (ds.map turn) g f := by
  have hkeys : (ds.map turn).map key = ds.map key := by
    rw [List.map_map]
    exact List.map_congr_left fun d _ => hkey d
  refine ⟨hkeys ▸ h.nodup, fun d hd => ?_, fun k hk => (h.rest k (hkeys ▸ hk)).symm⟩
  obtain ⟨d', hd', rfl⟩ := List.mem_map.mp hd
  rw [hkey]
  exact hleads d' _ _ (h.leads d' hd')

/-- Making the changes one after the other goes from the one lookup to the other. -/
theorem foldlM {ε : Type} [Ord κ] [DecidableEq κ] {step : SortedMap κ α → δ → Except ε (SortedMap κ α)}
    {m : SortedMap κ α} (h : Describes key leads ds m.find? g)
    (hstep : ∀ d m x y, leads d x y → m.find? (key d) = x →
      ∃ m', step m d = .ok m' ∧ ∀ k, m'.find? k = if k = key d then y else m.find? k) :
    ∃ m', ds.foldlM step m = .ok m' ∧ m'.find? = g := by
  have hat : ∀ d ∈ ds, ∀ m₁ : SortedMap κ α, m₁.find? (key d) = m.find? (key d) →
      ∃ m', step m₁ d = .ok m' ∧ ∀ k, m'.find? k = if k = key d then g k else m₁.find? k := by
    intro d hd m₁ hm₁
    obtain ⟨m', hm', hfind⟩ := hstep d m₁ _ _ (h.leads d hd) hm₁
    refine ⟨m', hm', fun k => (hfind k).trans ?_⟩
    split_ifs with hk
    · rw [hk]
    · rfl
  obtain ⟨m', hm', hfind⟩ := SortedMap.find?_foldlM key m.find? g hat h.nodup fun _ _ => rfl
  refine ⟨m', hm', funext fun k => (hfind k).trans ?_⟩
  split_ifs with hk
  · rfl
  · exact h.rest k hk

end Describes

/-! ### Nodes -/

namespace NodeDiff

/-- The fields of a node changed one after the other. -/
def setFields (changes : List FieldChange) (n : Node) : Except Error Node :=
  changes.foldlM (fun n c => n.setField c.field c.after) n

/-- The change leads from the one node to the other, if they are there, and turned round it leads
back. -/
inductive Leads : NodeDiff → Option Node → Option Node → Prop where
  | added {id : NodeId} {n : Node} : Leads ⟨id, .added, some n, []⟩ none (some n)
  | removed {id : NodeId} {n : Node} : Leads ⟨id, .removed, some n, []⟩ (some n) none
  | modified {id : NodeId} {n n' : Node} {changes : List FieldChange}
      (hforth : setFields changes n = .ok n')
      (hback : setFields (changes.map FieldChange.inverse) n' = .ok n) :
      Leads ⟨id, .modified, none, changes⟩ (some n) (some n')

theorem Leads.inverse {d : NodeDiff} {x y : Option Node} (h : d.Leads x y) :
    d.inverse.Leads y x := by
  cases h with
  | added => exact .removed
  | removed => exact .added
  | modified hforth hback =>
    refine .modified hback ?_
    rw [List.map_map]
    exact (congrArg (setFields · _) (List.map_id _)).trans hforth

abbrev Describes (ds : List NodeDiff) (f g : NodeId → Option Node) : Prop :=
  PropertyGraph.Describes id Leads ds f g

/-- What is there after removals and modifications but before additions. -/
def settled (f g : NodeId → Option Node) (id : NodeId) : Option Node :=
  (f id).bind fun _ => g id

/-- The changes without their additions describe the first half of the way. -/
theorem Describes.first {ds : List NodeDiff} {f g : NodeId → Option Node} (h : Describes ds f g) :
    PropertyGraph.Describes id
      (fun d x z => ∃ y, d.Leads x y ∧ z = x.bind fun _ => y) ds f (settled f g) := by
  refine ⟨h.nodup, fun d hd => ⟨g d.id, h.leads d hd, rfl⟩, fun id hid => ?_⟩
  unfold settled
  rw [← h.rest id hid]
  cases f id <;> rfl

/-- The additions describe the rest of the way. -/
theorem Describes.second {ds : List NodeDiff} {f g : NodeId → Option Node} (h : Describes ds f g) :
    PropertyGraph.Describes id (fun d x y => x = none ∧ d.node = y ∧ y.isSome)
      (ds.filter fun d => d.kind == .added) (settled f g) g := by
  refine ⟨h.nodup.sublist (List.filter_sublist.map _), fun d hd => ?_, fun id hid => ?_⟩
  · obtain ⟨hd, hkind⟩ := List.mem_filter.mp hd
    have hleads := h.leads d hd
    unfold settled
    generalize f d.id = x, g d.id = y at hleads
    cases hleads with
    | added => exact ⟨rfl, rfl, rfl⟩
    | removed => cases hkind
    | modified => cases hkind
  · unfold settled
    cases hf : f id with
    | some n => rfl
    | none =>
      -- only an addition could have led on from nothing
      by_contra hne
      have hmem : id ∈ ds.map NodeDiff.id := by
        by_contra hid
        exact hne (hf.symm.trans (h.rest id hid))
      obtain ⟨d, hd, rfl⟩ := List.mem_map.mp hmem
      have hleads := h.leads d hd
      refine hid (List.mem_map_of_mem (List.mem_filter.mpr ⟨hd, ?_⟩))
      generalize f d.id = x, g d.id = y at hleads hf
      cases hleads with
      | added => rfl
      | removed => cases hf
      | modified => cases hf

end NodeDiff

namespace GraphSnapshot

theorem changeNodeOf_spec (d : NodeDiff) (m : SortedMap NodeId Node) (x z : Option Node)
    (h : ∃ y, d.Leads x y ∧ z = x.bind fun _ => y) (hm : m.find? d.id = x) :
    ∃ m', changeNodeOf m d = .ok m' ∧
      ∀ id, m'.find? id = if id = d.id then z else m.find? id := by
  obtain ⟨y, hleads, rfl⟩ := h
  unfold changeNodeOf
  cases hleads with
  | added =>
    refine ⟨m, rfl, fun id => ?_⟩
    split_ifs with hid
    · rw [hid, hm]
      rfl
    · rfl
  | removed =>
    rw [hm]
    exact ⟨_, rfl, fun id => SortedMap.find?_erase m _ id⟩
  | modified hforth _ =>
    rw [hm]
    dsimp only
    unfold NodeDiff.setFields at hforth
    rw [hforth]
    exact ⟨_, rfl, fun id => SortedMap.find?_insert m _ id _⟩

theorem addNodeOf_spec (d : NodeDiff) (m : SortedMap NodeId Node) (x y : Option Node)
    (h : x = none ∧ d.node = y ∧ y.isSome) (hm : m.find? d.id = x) :
    ∃ m', addNodeOf m d = .ok m' ∧ ∀ id, m'.find? id = if id = d.id then y else m.find? id := by
  obtain ⟨rfl, rfl, hsome⟩ := h
  obtain ⟨n, hn⟩ := Option.isSome_iff_exists.mp hsome
  unfold addNodeOf SortedMap.contains
  rw [hn, hm]
  exact ⟨_, rfl, fun id => SortedMap.find?_insert m _ id n⟩

/-- The two passes over the changes of nodes. -/
theorem applyNodes_spec {ds : List NodeDiff} {m : SortedMap NodeId Node}
    {g : NodeId → Option Node} (h : NodeDiff.Describes ds m.find? g) :
    ∃ m₁ m', ds.foldlM changeNodeOf m = .ok m₁ ∧
      (ds.filter fun d => d.kind == .added).foldlM addNodeOf m₁ = .ok m' ∧ m'.find? = g := by
  obtain ⟨m₁, hfirst, hm₁⟩ := h.first.foldlM changeNodeOf_spec
  have hsecond := h.second
  rw [← hm₁] at hsecond
  obtain ⟨m', hadd, hm'⟩ := hsecond.foldlM addNodeOf_spec
  exact ⟨m₁, m', hfirst, hadd, hm'⟩

end GraphSnapshot

/-! ### Edges -/

namespace EdgeDiff

/-- The edge is there before and not after. -/
def Removes (d : EdgeDiff) (x y : Option Edge) : Prop := x = some d.edge ∧ y = none

/-- The edge is there after and not before. -/
def Adds (d : EdgeDiff) (x y : Option Edge) : Prop := x = none ∧ y = some d.edge

/-- The removals lead to what is in both lookups, and the additions from there on. -/
def Describes (ds : List EdgeDiff) (f g : EdgeKey → Option Edge) : Prop :=
  ∃ kept, PropertyGraph.Describes key Removes (ds.filter fun d => d.kind == .removed) f kept ∧
    PropertyGraph.Describes key Adds (ds.filter fun d => d.kind == .added) kept g

theorem Describes.perm {ds ds' : List EdgeDiff} {f g : EdgeKey → Option Edge}
    (h : Describes ds f g) (hperm : ds'.Perm ds) : Describes ds' f g := by
  obtain ⟨kept, hremoved, hadded⟩ := h
  exact ⟨kept, hremoved.perm (hperm.filter _), hadded.perm (hperm.filter _)⟩

theorem filter_map_inverse (ds : List EdgeDiff) (kind : ChangeKind) :
    (ds.map EdgeDiff.inverse).filter (fun d => d.kind == kind)
      = (ds.filter fun d => d.kind == kind.inverse).map EdgeDiff.inverse := by
  rw [List.filter_map]
  refine congrArg (List.map EdgeDiff.inverse) (List.filter_congr fun d _ => ?_)
  cases hkind : d.kind <;> cases kind <;> simp [EdgeDiff.inverse, hkind, ChangeKind.inverse]

theorem Describes.inverse {ds : List EdgeDiff} {f g : EdgeKey → Option Edge}
    (h : Describes ds f g) : Describes (ds.map EdgeDiff.inverse) g f := by
  obtain ⟨kept, hremoved, hadded⟩ := h
  refine ⟨kept, ?_, ?_⟩
  · rw [filter_map_inverse]
    exact hadded.inverse (fun _ => rfl) fun d x y h => ⟨h.2, h.1⟩
  · rw [filter_map_inverse]
    exact hremoved.inverse (fun _ => rfl) fun d x y h => ⟨h.2, h.1⟩

end EdgeDiff

namespace GraphSnapshot

theorem removeEdgeOf_spec (d : EdgeDiff) (m : SortedMap EdgeKey Edge) (x y : Option Edge)
    (h : d.Removes x y) (hm : m.find? d.key = x) :
    ∃ m', removeEdgeOf m d = .ok m' ∧ ∀ k, m'.find? k = if k = d.key then y else m.find? k := by
  obtain ⟨rfl, rfl⟩ := h
  unfold removeEdgeOf SortedMap.contains
  rw [hm]
  exact ⟨_, rfl, fun k => SortedMap.find?_erase m _ k⟩

theorem addEdgeOf_spec (d : EdgeDiff) (m : SortedMap EdgeKey Edge) (x y : Option Edge)
    (h : d.Adds x y) (hm : m.find? d.key = x) :
    ∃ m', addEdgeOf m d = .ok m' ∧ ∀ k, m'.find? k = if k = d.key then y else m.find? k := by
  obtain ⟨rfl, rfl⟩ := h
  unfold addEdgeOf SortedMap.contains
  rw [hm]
  exact ⟨_, rfl, fun k => SortedMap.find?_insert m _ k _⟩

/-- The two passes over the changes of edges. -/
theorem applyEdges_spec {ds : List EdgeDiff} {m : SortedMap EdgeKey Edge}
    {g : EdgeKey → Option Edge} (h : EdgeDiff.Describes ds m.find? g) :
    ∃ m₁ m', (ds.filter fun d => d.kind == .removed).foldlM removeEdgeOf m = .ok m₁ ∧
      (ds.filter fun d => d.kind == .added).foldlM addEdgeOf m₁ = .ok m' ∧ m'.find? = g := by
  obtain ⟨kept, hremoved, hadded⟩ := h
  obtain ⟨m₁, hremove, rfl⟩ := hremoved.foldlM removeEdgeOf_spec
  obtain ⟨m', hadd, hm'⟩ := hadded.foldlM addEdgeOf_spec
  exact ⟨m₁, m', hremove, hadd, hm'⟩

end GraphSnapshot

/-! ### Metadata -/

namespace MetadataChange

/-- The values before and after are those of the change. -/
def Leads (c : MetadataChange) (x y : Option Value) : Prop := x = c.before ∧ y = c.after

abbrev Describes (cs : List MetadataChange) (f g : String → Option Value) : Prop :=
  PropertyGraph.Describes key Leads cs f g

end MetadataChange

theorem GraphSnapshot.applyMetadata_spec {cs : List MetadataChange} {m : SortedMap String Value}
    {g : String → Option Value} (h : MetadataChange.Describes cs m.find? g) :
    (cs.foldl changeMetadataOf m).find? = g := by
  have hstep : ∀ c ∈ cs, ∀ (m : SortedMap String Value) k,
      (changeMetadataOf m c).find? k = if k = c.key then g k else m.find? k := by
    intro c hc m k
    obtain ⟨-, hafter⟩ := h.leads c hc
    unfold changeMetadataOf
    cases hcafter : c.after with
    | some v =>
      rw [SortedMap.find?_insert]
      split_ifs with hk
      · rw [hk, hafter, hcafter]
      · rfl
    | none =>
      rw [SortedMap.find?_erase]
      split_ifs with hk
      · rw [hk, hafter, hcafter]
      · rfl
  funext k
  rw [SortedMap.find?_foldl MetadataChange.key g hstep]
  split_ifs with hk
  · rfl
  · exact h.rest k hk

/-! ### Snapshots -/

/-- What is looked up in a snapshot. -/
structure Contents where
  node? : NodeId → Option Node
  edge? : EdgeKey → Option Edge
  metadata? : String → Option Value

def GraphSnapshot.contents (s : GraphSnapshot) : Contents where
  node? := (Differ.nodesById s.nodes).find?
  edge? := (Differ.edgesByKey s.edges).find?
  metadata? := s.metadata.find?

/-- The snapshot of what is in maps. -/
def GraphSnapshot.ofMaps (version : String) (nodes : SortedMap NodeId Node)
    (edges : SortedMap EdgeKey Edge) (metadata : SortedMap String Value) : GraphSnapshot :=
  ⟨version, nodes.values, edges.values, metadata, none⟩

theorem GraphSnapshot.contents_ofMaps {version : String} {nodes : SortedMap NodeId Node}
    {edges : SortedMap EdgeKey Edge} {metadata : SortedMap String Value}
    (hnodes : nodes.KeyedBy Node.id) (hedges : edges.KeyedBy Edge.key) :
    (ofMaps version nodes edges metadata).contents
      = ⟨nodes.find?, edges.find?, metadata.find?⟩ := by
  unfold ofMaps contents Differ.nodesById Differ.edgesByKey
  dsimp only
  rw [hnodes.ofList_values, hedges.ofList_values]

namespace SnapshotDiff

/-- The diff leads from the one contents to the other. -/
structure Leads (d : SnapshotDiff) (x y : Contents) : Prop where
  nodes : NodeDiff.Describes d.nodes x.node? y.node?
  edges : EdgeDiff.Describes d.edges x.edge? y.edge?
  metadata : MetadataChange.Describes d.metadata x.metadata? y.metadata?

variable {d : SnapshotDiff} {x y : Contents}

/-- The order of changes makes no difference. -/
theorem leads_of {fromVersion toVersion : String} {nodes : List NodeDiff} {edges : List EdgeDiff}
    {metadata : List MetadataChange} (hnodes : NodeDiff.Describes nodes x.node? y.node?)
    (hedges : EdgeDiff.Describes edges x.edge? y.edge?)
    (hmetadata : MetadataChange.Describes metadata x.metadata? y.metadata?) :
    (of fromVersion toVersion nodes edges metadata).Leads x y :=
  ⟨hnodes.perm (stableSort_perm ..), hedges.perm (stableSort_perm ..),
    hmetadata.perm (stableSort_perm ..)⟩

/-- The inverse of a diff leads back. -/
theorem Leads.inverse (h : d.Leads x y) : d.inverse.Leads y x :=
  leads_of (h.nodes.inverse (fun _ => rfl) fun _ _ _ => NodeDiff.Leads.inverse) h.edges.inverse
    (h.metadata.inverse (fun _ => rfl) fun _ _ _ h => ⟨h.2, h.1⟩)

/-- A diff that leads from the contents of a snapshot can be applied to it. -/
theorem Leads.apply {s : GraphSnapshot} (h : d.Leads s.contents y)
    (hversion : d.fromVersion = s.version) :
    ∃ nodes edges metadata, s.apply d = .ok (.ofMaps d.toVersion nodes edges metadata) ∧
      y = ⟨nodes.find?, edges.find?, metadata.find?⟩ := by
  obtain ⟨nodes₁, nodes, hchange, haddNodes, hnodes⟩ := GraphSnapshot.applyNodes_spec h.nodes
  obtain ⟨edges₁, edges, hremove, haddEdges, hedges⟩ := GraphSnapshot.applyEdges_spec h.edges
  have hmetadata := GraphSnapshot.applyMetadata_spec h.metadata
  refine ⟨nodes, edges, d.metadata.foldl GraphSnapshot.changeMetadataOf s.metadata, ?_, ?_⟩
  · unfold GraphSnapshot.apply
    rw [if_neg (not_not.mpr hversion)]
    dsimp only
    rw [hremove]
    dsimp only [bind, Except.bind]
    rw [hchange]
    dsimp only
    rw [haddNodes]
    dsimp only
    rw [haddEdges]
    rfl
  · rw [hnodes, hedges]
    exact congrArg (Contents.mk y.node? y.edge?) hmetadata.symm

end SnapshotDiff

end PropertyGraph
