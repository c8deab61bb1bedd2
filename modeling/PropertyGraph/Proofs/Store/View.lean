import PropertyGraph.Proofs.Store.Integrity
import PropertyGraph.Store.View

/-!
# Views of a store

A view that `Shows` a store looks nodes and edges up as the store does; how it scans is left open.
Of a well-formed store a view finds nodes under their own ids only, so nodes that it finds are told
apart by their ids (`Shows.eq_of_id_eq`).
-/

namespace PropertyGraph

/-- The lookups of the view are those of the store. -/
structure GraphView.Shows (v : GraphView) (s : Store) : Prop where
  node? : v.node? = s.node?
  edgesAt : v.edgesAt = s.edgesAt

namespace Store

theorem view_shows (s : Store) : s.view.Shows s := ⟨rfl, rfl⟩

end Store

/-- The view finds the node. -/
def GraphView.Finds (v : GraphView) (n : Node) : Prop := v.node? n.id = some n

namespace GraphView

variable {v : GraphView} {s : Store} {n m : Node}

theorem Shows.finds (hv : v.Shows s) (hs : s.WellFormed) {id : NodeId} (h : v.node? id = some n) :
    v.Finds n := by
  have hid : n.id = id := hs.id_of_node (hv.node? ▸ h)
  unfold Finds
  rw [hid]
  exact h

/-- Nodes that are found are told apart by their ids. -/
theorem Finds.eq_of_id_eq (hn : v.Finds n) (hm : v.Finds m) (hid : n.id = m.id) : n = m := by
  unfold Finds at hn hm
  rw [hid, hm] at hn
  exact (Option.some.inj hn).symm

end GraphView

end PropertyGraph
