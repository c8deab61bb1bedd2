import PropertyGraph.Proofs.Store.Labels
import PropertyGraph.Proofs.Store.Scans

/-!
# Stores that extend another one

A store extends another one if it has all of its elements, perhaps with other properties, and lists
them in the same order, perhaps with more in between (`Store.Extends`).  Additions and updates lead
from one extension to another, and so does removing what the other store does not have.

An extension that has the elements of the other store and no more answers as that one does
(`Extends.view_eq`).
-/

namespace PropertyGraph.Store

variable {s₀ s s' : Store}

def hasNode (s : Store) (id : NodeId) : Bool := (s.node? id).isSome

def hasEdge (s : Store) (key : EdgeKey) : Bool := (s.edge? key).isSome

/-- The elements of `s₀` are there, and they are listed in the order in which `s₀` lists them. -/
structure Extends (s₀ s : Store) : Prop where
  wellFormed : s.WellFormed
  nodes : ∀ {id}, s₀.hasNode id → s.hasNode id
  edges : ∀ {key}, s₀.hasEdge key → s.hasEdge key
  labelled : ∀ label, (s.labelled label).filter s₀.hasNode = s₀.labelled label
  incident : ∀ id, (s.incident id).filter s₀.hasEdge = s₀.incident id

/-! ### What is listed -/

theorem WellLabelled.filter_labelled (h : s.WellLabelled) (label : String) :
    (s.labelled label).filter s.hasNode = s.labelled label :=
  List.filter_eq_self.mpr fun _ hid => h.node_stored hid

theorem WellFormed.filter_incident (h : s.WellFormed) (id : NodeId) :
    (s.incident id).filter s.hasEdge = s.incident id :=
  List.filter_eq_self.mpr fun _ hkey => (h.mem_incident.mp hkey).1

theorem labelled_congr (h : s'.labelIndex = s.labelIndex) : s'.labelled = s.labelled := by
  unfold labelled
  rw [h]

namespace Extends

theorem refl (h : s.Reachable) : s.Extends s where
  wellFormed := h.wellFormed
  nodes hid := hid
  edges hkey := hkey
  labelled := h.wellLabelled.filter_labelled
  incident := h.wellFormed.filter_incident

/-- An extension that has no more than the elements of the store answers as the store does. -/
theorem view_eq (h : s₀.Extends s) (hs : s.WellLabelled) (hnode : s.node? = s₀.node?)
    (hedge : s.edge? = s₀.edge?) : s.view = s₀.view := by
  -- the part that is kept of each list is all of it
  have hhasNode : s₀.hasNode = s.hasNode := by
    unfold hasNode
    rw [hnode]
  have hhasEdge : s₀.hasEdge = s.hasEdge := by
    unfold hasEdge
    rw [hedge]
  have hlabelled : s.labelled = s₀.labelled := by
    funext label
    rw [← h.labelled, hhasNode, hs.filter_labelled]
  have hincident : s.incident = s₀.incident := by
    funext id
    rw [← h.incident, hhasEdge, h.wellFormed.filter_incident]
  have hedgesAt : s.edgesAt = s₀.edgesAt := by
    funext id
    rw [edgesAt_eq, edgesAt_eq, hincident, hedge]
  have hnodesWithLabel : s.nodesWithLabel = s₀.nodesWithLabel := by
    funext label
    show (s.labelled label).filterMap s.node? = (s₀.labelled label).filterMap s₀.node?
    rw [hlabelled, hnode]
  unfold view
  rw [hnode, hedgesAt, hnodesWithLabel, allNodes_congr hnode, allEdges_congr hedge]

/-! ### Additions and updates -/

/-- A change that loses no element and leaves the lists as they are. -/
theorem of_same_lists (h : s₀.Extends s) (hs' : s'.WellFormed)
    (hnodes : ∀ {id}, s.hasNode id → s'.hasNode id)
    (hedges : ∀ {key}, s.hasEdge key → s'.hasEdge key)
    (hlabelled : s'.labelled = s.labelled) (hincident : s'.incident = s.incident) :
    s₀.Extends s' where
  wellFormed := hs'
  nodes hid := hnodes (h.nodes hid)
  edges hkey := hedges (h.edges hkey)
  labelled label := hlabelled ▸ h.labelled label
  incident id := hincident ▸ h.incident id

/-- An id that is free in an extension is free in the store. -/
theorem node_free (h : s₀.Extends s) {id : NodeId} (hid : s.node? id = none) :
    s₀.hasNode id = false := by
  rw [Bool.eq_false_iff]
  intro hhas
  have hthere : (s.node? id).isSome := h.nodes hhas
  rw [hid] at hthere
  cases hthere

theorem edge_free (h : s₀.Extends s) {key : EdgeKey} (hkey : s.edge? key = none) :
    s₀.hasEdge key = false := by
  rw [Bool.eq_false_iff]
  intro hhas
  have hthere : (s.edge? key).isSome := h.edges hhas
  rw [hkey] at hthere
  cases hthere

theorem addNode (h : s₀.Extends s) {n : Node} (hadd : s.addNode n = .ok s') : s₀.Extends s' := by
  obtain ⟨hfree, hnode, hedge, hincident⟩ := addNode_spec hadd
  refine ⟨h.wellFormed.addNode hadd, fun hid => ?_, fun hkey => ?_, fun label => ?_, fun id => ?_⟩
  · unfold hasNode
    rw [hnode]
    exact isSome_update (h.nodes hid)
  · unfold hasEdge
    rw [hedge]
    exact h.edges hkey
  · -- the new node comes last, and it is none of those of the store
    rw [labelled_addNode hadd, List.filter_append, h.labelled, List.filter_replicate,
      h.node_free hfree, if_neg Bool.false_ne_true, List.append_nil]
  · rw [hincident]
    exact h.incident id

theorem addEdge (h : s₀.Extends s) {e : Edge} (hadd : s.addEdge e = .ok s') : s₀.Extends s' := by
  obtain ⟨-, -, hfree, hnode, hedge, hincident⟩ := addEdge_spec hadd
  refine ⟨h.wellFormed.addEdge hadd, fun hid => ?_, fun hkey => ?_, fun label => ?_, fun id => ?_⟩
  · unfold hasNode
    rw [hnode]
    exact h.nodes hid
  · unfold hasEdge
    rw [hedge]
    exact isSome_update (h.edges hkey)
  · rw [labelled_congr (labelIndex_addEdge hadd)]
    exact h.labelled label
  · rw [hincident]
    dsimp only
    -- the new edge comes last at both of its nodes, and it is none of those of the store
    split_ifs
    · rw [List.filter_append, h.incident, List.filter_singleton, h.edge_free hfree]
      exact List.append_nil _
    · exact h.incident id

theorem updateNode (h : s₀.Extends s) {id : NodeId} {updates : PropertyMap}
    (hupd : s.updateNode id updates = .ok s') : s₀.Extends s' := by
  obtain ⟨n, -, hnode, hedge, hincident⟩ := updateNode_spec hupd
  refine h.of_same_lists (h.wellFormed.updateNode hupd) (fun hid => ?_) (fun hkey => ?_)
    (labelled_congr (labelIndex_updateNode hupd)) hincident
  · unfold hasNode
    rw [hnode]
    exact isSome_update hid
  · unfold hasEdge
    rw [hedge]
    exact hkey

theorem updateEdge (h : s₀.Extends s) {key : EdgeKey} {updates : PropertyMap}
    (hupd : s.updateEdge key updates = .ok s') : s₀.Extends s' := by
  obtain ⟨e, -, hnode, hedge, hincident⟩ := updateEdge_spec hupd
  refine h.of_same_lists (h.wellFormed.updateEdge hupd) (fun hid => ?_) (fun hkey => ?_)
    (labelled_congr (labelIndex_updateEdge hupd)) hincident
  · unfold hasNode
    rw [hnode]
    exact hid
  · unfold hasEdge
    rw [hedge]
    exact isSome_update hkey

/-! ### Removing what the store does not have -/

/-- Taking other entries off a list does not show in the part of it that is kept. -/
theorem filter_filter_of_imp {α : Type} {p q : α → Bool} (h : ∀ x, p x → q x) (xs : List α) :
    (xs.filter q).filter p = xs.filter p := by
  rw [List.filter_filter]
  refine List.filter_congr fun x _ => ?_
  cases hx : p x with
  | true => exact h x hx
  | false => rfl

theorem removeNode (h : s₀.Extends s) (hs₀ : s₀.WellFormed) {id : NodeId}
    (hid : s₀.hasNode id = false) : s₀.Extends (s.removeNode id).2 := by
  obtain ⟨hfound, hnode, hedge, hincident⟩ := h.wellFormed.removeNode_spec id
  have hother : ∀ id', s₀.hasNode id' → id' ≠ id := by
    rintro id' hid' rfl
    rw [hid] at hid'
    cases hid'
  -- the edges of the store have both of their nodes in it, so none of them touches the node
  have huntouched : ∀ key, s₀.hasEdge key → ¬ key.Touches id := fun key hkey htouch =>
    hother id (hs₀.node_stored hkey htouch) rfl
  refine ⟨h.wellFormed.removeNode id, fun {id'} hid' => ?_, fun {key} hkey => ?_, fun label => ?_,
    fun id' => ?_⟩
  · unfold hasNode
    rw [hnode, Function.update_of_ne (hother id' hid')]
    exact h.nodes hid'
  · unfold hasEdge
    rw [hedge]
    dsimp only
    rw [if_neg (huntouched key hkey)]
    exact h.edges hkey
  · cases hn : s.node? id with
    | none =>
      rw [hn] at hfound
      have hsame : (s.removeNode id).2 = s := eq_of_removeNode_eq_false (Prod.ext hfound rfl)
      rw [hsame]
      exact h.labelled label
    | some n =>
      rw [labelled_removeNode hn]
      split_ifs
      · rw [filter_filter_of_imp fun id' hid' => decide_eq_true (hother id' hid')]
        exact h.labelled label
      · exact h.labelled label
  · rw [hincident]
    dsimp only
    rw [filter_filter_of_imp fun key hkey => decide_eq_true (huntouched key hkey)]
    exact h.incident id'

theorem removeEdge (h : s₀.Extends s) {key : EdgeKey} (hkey : s₀.hasEdge key = false) :
    s₀.Extends (s.removeEdge key).2 := by
  obtain ⟨-, hnode, hedge, hincident⟩ := h.wellFormed.removeEdge_spec key
  have hother : ∀ key', s₀.hasEdge key' → key' ≠ key := by
    rintro key' hkey' rfl
    rw [hkey] at hkey'
    cases hkey'
  refine ⟨h.wellFormed.removeEdge key, fun hid => ?_, fun {key'} hkey' => ?_, fun label => ?_,
    fun id => ?_⟩
  · unfold hasNode
    rw [hnode]
    exact h.nodes hid
  · unfold hasEdge
    rw [hedge, Function.update_of_ne (hother key' hkey')]
    exact h.edges hkey'
  · rw [labelled_congr (labelIndex_removeEdge key)]
    exact h.labelled label
  · rw [hincident]
    dsimp only
    rw [filter_filter_of_imp fun key' hkey' => decide_eq_true (hother key' hkey')]
    exact h.incident id

end Extends

end PropertyGraph.Store
