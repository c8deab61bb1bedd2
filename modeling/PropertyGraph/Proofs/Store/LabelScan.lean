import PropertyGraph.Proofs.Store.History
import PropertyGraph.Proofs.Store.Labels

/-!
# The label index and the scan

A store finds the nodes of a label by its index, while a view without an index goes through all nodes
and keeps those that have the label.  Both find the same nodes (`indexed_and_scanned`), but the index
holds a node once for every time the node names the label, and the scan once.  So they agree in how
often they find each node exactly where no node names the label twice.
-/

namespace PropertyGraph.Store

variable {s : Store}

/-- The nodes that a scan finds for a label. -/
def scanned (s : Store) (label : String) : List Node := s.allNodes.filter (·.hasLabel label)

theorem WellFormed.mem_scanned (h : s.WellFormed) {label : String} {n : Node} :
    n ∈ s.scanned label ↔ s.node? n.id = some n ∧ n.hasLabel label := by
  unfold scanned
  rw [List.mem_filter, h.mem_allNodes]

theorem WellFormed.nodup_scanned (h : s.WellFormed) (label : String) :
    ((s.scanned label).map Node.id).Nodup := h.nodup_ids.sublist (List.filter_sublist.map _)

/-! ### How often an id is listed -/

/-- Different keys, each listed a number of times. -/
theorem count_flatMap_replicate {κ : Type} [DecidableEq κ] (times : κ → Nat) {keys : List κ}
    (hnodup : keys.Nodup) (k : κ) :
    (keys.flatMap fun key => List.replicate (times key) key).count k
      = if k ∈ keys then times k else 0 := by
  induction keys with
  | nil => rfl
  | cons key rest ih =>
    obtain ⟨hnew, hrest⟩ := List.nodup_cons.mp hnodup
    rw [List.flatMap_cons, List.count_append, ih hrest, List.count_replicate]
    by_cases hk : k = key
    · subst hk
      simp [hnew]
    · simp [hk, Ne.symm hk]

/-- A node that a scan finds names the label, and no other node does. -/
theorem WellFormed.naming_eq_zero (h : s.WellFormed) {label : String} {id : NodeId}
    (hid : id ∉ (s.scanned label).map Node.id) : s.naming label id = 0 := by
  unfold naming
  cases hn : s.node? id with
  | none => rfl
  | some n =>
    have hsame : n.id = id := h.id_of_node hn
    refine List.count_eq_zero.mpr fun hlabel => hid (List.mem_map.mpr ⟨n, ?_, hsame⟩)
    exact h.mem_scanned.mpr ⟨hsame ▸ hn, List.contains_iff_mem.mpr hlabel⟩

theorem WellFormed.naming_scanned (h : s.WellFormed) {label : String} {n : Node}
    (hn : n ∈ s.scanned label) : s.naming label n.id = n.labels.count label := by
  unfold naming
  rw [(h.mem_scanned.mp hn).1]

/-- The list of a label holds the ids that a scan finds, each as often as its node names the label. -/
theorem Reachable.labelled_perm (h : s.Reachable) (label : String) :
    (s.labelled label).Perm (((s.scanned label).map Node.id).flatMap fun id =>
      List.replicate (s.naming label id) id) := by
  rw [List.perm_iff_count]
  intro id
  rw [h.wellLabelled label id, count_flatMap_replicate _ (h.wellFormed.nodup_scanned label)]
  split_ifs with hid
  · rfl
  · exact h.wellFormed.naming_eq_zero hid

/-! ### The two searches -/

/-- The index finds what a scan finds, each node as often as it names the label. -/
theorem Reachable.nodesWithLabel_perm (h : s.Reachable) (label : String) :
    (s.nodesWithLabel label).Perm ((s.scanned label).flatMap fun n =>
      List.replicate (n.labels.count label) n) := by
  have hfound : (s.nodesWithLabel label).Perm ((((s.scanned label).map Node.id).flatMap fun id =>
      List.replicate (s.naming label id) id).filterMap s.node?) :=
    (h.labelled_perm label).filterMap s.node?
  have hnodes : (((s.scanned label).map Node.id).flatMap fun id =>
      List.replicate (s.naming label id) id).filterMap s.node?
        = (s.scanned label).flatMap fun n => List.replicate (n.labels.count label) n := by
    rw [List.flatMap_map, List.filterMap_flatMap]
    refine List.flatMap_congr fun n hn => ?_
    rw [h.wellFormed.naming_scanned hn,
      List.filterMap_replicate_of_some (h.wellFormed.mem_scanned.mp hn).1]
  rwa [hnodes] at hfound

/-- Each label of a node on the list leads to the node. -/
theorem Reachable.map_id_nodesWithLabel (h : s.Reachable) (label : String) :
    (s.nodesWithLabel label).map Node.id = s.labelled label := by
  show ((s.labelled label).filterMap s.node?).map Node.id = s.labelled label
  rw [List.map_filterMap]
  refine (List.filterMap_congr fun id hid => ?_).trans List.filterMap_some
  obtain ⟨n, hn⟩ := Option.isSome_iff_exists.mp (h.wellLabelled.node_stored hid)
  rw [hn]
  exact congrArg some (h.wellFormed.id_of_node hn)

/-- The index and a scan find each node the same number of times exactly where no node names the label
twice. -/
theorem Reachable.nodesWithLabel_perm_scanned_iff (h : s.Reachable) (label : String) :
    (s.nodesWithLabel label).Perm (s.scanned label) ↔
      ∀ n ∈ s.scanned label, n.labels.count label = 1 := by
  constructor
  · intro hperm n hn
    have hids : (s.labelled label).Perm ((s.scanned label).map Node.id) := by
      rw [← h.map_id_nodesWithLabel label]
      exact hperm.map Node.id
    calc n.labels.count label
        = s.naming label n.id := (h.wellFormed.naming_scanned hn).symm
      _ = (s.labelled label).count n.id := (h.wellLabelled label n.id).symm
      _ = ((s.scanned label).map Node.id).count n.id := hids.count_eq n.id
      _ = 1 := List.count_eq_one_of_mem (h.wellFormed.nodup_scanned label) (List.mem_map_of_mem hn)
  · intro honce
    refine (h.nodesWithLabel_perm label).trans (List.Perm.of_eq ?_)
    calc (s.scanned label).flatMap (fun n => List.replicate (n.labels.count label) n)
        = (s.scanned label).flatMap fun n => [n] := List.flatMap_congr fun n hn => by
          rw [honce n hn]
          rfl
      _ = s.scanned label := List.flatMap_singleton' _

/-- Let any calls be made on the empty store.  The index and a scan then find the same nodes for a
label, the index each node as often as it names the label.  They agree in how often they find each
node exactly where no node that has the label names it twice. -/
theorem indexed_and_scanned (ops : List Operation) (label : String) :
    let s := Operation.runAll ops empty
    ∃ indexed scanned, s.view.nodesWithLabel label = .ok indexed ∧
      s.scanView.nodesWithLabel label = .ok scanned ∧
      (∀ n, n ∈ indexed ↔ n ∈ scanned) ∧
      indexed.Perm (scanned.flatMap fun n => List.replicate (n.labels.count label) n) ∧
      (indexed.Perm scanned ↔ ∀ n ∈ scanned, n.labels.count label = 1) := by
  intro s
  have hs : s.Reachable := Reachable.empty.runAll ops
  refine ⟨_, _, rfl, rfl, fun n => ?_, hs.nodesWithLabel_perm label,
    hs.nodesWithLabel_perm_scanned_iff label⟩
  rw [hs.mem_nodesWithLabel]
  exact hs.wellFormed.mem_scanned.symm

/-- A node that names a label twice is found twice by the index and once by a scan. -/
theorem indexed_twice :
    ¬ ∀ (ops : List Operation) (label : String) (indexed scanned : List Node),
      (Operation.runAll ops empty).view.nodesWithLabel label = .ok indexed →
      (Operation.runAll ops empty).scanView.nodesWithLabel label = .ok scanned →
        indexed.Perm scanned := by
  intro hagree
  have hlength := (hagree [.addNode ⟨"a", ["x", "x"], .empty⟩] "x" _ _ rfl rfl).length_eq
  have hdiffer : ¬ (2 : Nat) = 1 := by decide
  exact hdiffer hlength

end PropertyGraph.Store
