import Mathlib.Logic.Function.Basic
import PropertyGraph.Proofs.Collection.SortedMap
import PropertyGraph.Store.Basic

/-!
# What the operations of a store change

A store is looked at through `Store.node?`, `Store.edge?` and `Store.incident`.  For each operation
one theorem says when it is done and what these three answer afterwards: `addNode_spec`,
`updateNode_spec`, `addEdge_spec`, `updateEdge_spec` and `removeEdge_spec`, with `find?_merge` for
the properties behind an update.  Removing a node needs the integrity of the store.
-/

namespace PropertyGraph

/-! ### Merged properties -/

/-- Behind an update a key has its new value, no value if that is null, and its old value if the
update does not name it. -/
theorem PropertyMap.find?_merge (properties updates : PropertyMap) (key : String) :
    (properties.merge updates).find? key
      = match updates.find? key with
        | some v => if v.isNull then none else some v
        | none => properties.find? key := by
  obtain ⟨entries, hs⟩ := updates
  unfold PropertyMap.merge SortedMap.find?
  induction entries generalizing properties with
  | nil => rfl
  | cons first rest ih =>
    have hrest : Entries.Sorted rest := List.Pairwise.of_cons hs
    rw [List.foldl_cons, ih _ hrest, Entries.find?]
    by_cases hk : first.1 = key
    · -- the rest of the update does not name the key again
      have hnone : Entries.find? key rest = none := by
        rw [Option.eq_none_iff_forall_ne_some]
        intro v hv
        have hlt := List.rel_of_pairwise_cons hs ((Entries.find?_eq_some_iff hrest).mp hv)
        rw [hk] at hlt
        simp at hlt
      rw [hnone, if_pos hk]
      by_cases hnull : first.2.isNull
      · simp only [hnull, if_true, ← hk]
        exact SortedMap.find?_erase_self _ _
      · simp only [hnull, ← hk]
        exact SortedMap.find?_insert_self _ _ _
    · rw [if_neg hk]
      cases Entries.find? key rest with
      | some v => rfl
      | none =>
        by_cases hnull : first.2.isNull
        · simp only [hnull, if_true]
          exact SortedMap.find?_erase_of_ne _ hk
        · simp only [hnull]
          exact SortedMap.find?_insert_of_ne _ hk _

/-- The node is an end of the edge that the key names. -/
def EdgeKey.Touches (k : EdgeKey) (id : NodeId) : Prop := k.source = id ∨ k.target = id

instance (k : EdgeKey) (id : NodeId) : Decidable (k.Touches id) :=
  inferInstanceAs (Decidable (_ ∨ _))

namespace Store

/-- The keys of the edges at a node. -/
def incident (s : Store) (id : NodeId) : List EdgeKey := (s.incidence.find? id).getD []

theorem edgesAt_eq (s : Store) (id : NodeId) : s.edgesAt id = (s.incident id).filterMap s.edge? :=
  rfl

/-! ### Lists under keys -/

section Lists

variable {κ α : Type} [Ord κ] [DecidableEq κ] [Std.TransOrd κ] [Std.LawfulEqOrd κ]

theorem find?_enlist (lists : SortedMap κ (List α)) (key k : κ) (x : α) :
    ((enlist lists key x).find? k).getD []
      = if k = key then (lists.find? k).getD [] ++ [x] else (lists.find? k).getD [] := by
  unfold enlist
  rw [SortedMap.find?_insert]
  by_cases h : k = key
  · rw [if_pos h, if_pos h, h, Option.getD_some]
  · rw [if_neg h, if_neg h]

theorem find?_delist [DecidableEq α] (lists : SortedMap κ (List α)) (key k : κ) (x : α) :
    ((delist lists key x).find? k).getD []
      = if k = key then ((lists.find? k).getD []).filter (· ≠ x) else (lists.find? k).getD [] := by
  unfold delist
  by_cases h : k = key
  · subst h
    rw [if_pos rfl]
    cases hfind : lists.find? k with
    | some list => simp
    | none => simp [hfind]
  · rw [if_neg h]
    cases lists.find? key with
    | some list => simp only [SortedMap.find?_insert, if_neg h]
    | none => rfl

end Lists

/-- Listing an edge at both of its nodes lists a loop once. -/
theorem find?_enlist_ends (lists : SortedMap NodeId (List EdgeKey)) (k : EdgeKey) (id : NodeId) :
    ((if k.source = k.target then enlist lists k.source k
      else enlist (enlist lists k.source k) k.target k).find? id).getD []
      = if k.Touches id then (lists.find? id).getD [] ++ [k] else (lists.find? id).getD [] := by
  by_cases hsource : id = k.source
  · rw [if_pos (show k.Touches id from Or.inl hsource.symm)]
    by_cases hloop : k.source = k.target
    · rw [if_pos hloop, find?_enlist, if_pos hsource]
    · rw [if_neg hloop, find?_enlist, if_neg (hsource ▸ hloop), find?_enlist, if_pos hsource]
  · by_cases htarget : id = k.target
    · have hloop : k.source ≠ k.target := fun h => hsource (htarget.trans h.symm)
      rw [if_pos (show k.Touches id from Or.inr htarget.symm), if_neg hloop, find?_enlist,
        if_pos htarget, find?_enlist, if_neg hsource]
    · have htouch : ¬ k.Touches id := by
        rintro (h | h)
        exacts [hsource h.symm, htarget h.symm]
      rw [if_neg htouch]
      split_ifs
      · rw [find?_enlist, if_neg hsource]
      · rw [find?_enlist, if_neg htarget, find?_enlist, if_neg hsource]

theorem find?_delist_ends (lists : SortedMap NodeId (List EdgeKey)) (k : EdgeKey) (id : NodeId) :
    ((delist (delist lists k.source k) k.target k).find? id).getD []
      = if k.Touches id then ((lists.find? id).getD []).filter (· ≠ k)
        else (lists.find? id).getD [] := by
  simp only [find?_delist]
  by_cases hsource : id = k.source
  · rw [if_pos (show k.Touches id from Or.inl hsource.symm), if_pos hsource, List.filter_filter]
    simp only [Bool.and_self, ite_self]
  · by_cases htarget : id = k.target
    · rw [if_pos (show k.Touches id from Or.inr htarget.symm), if_pos htarget, if_neg hsource]
    · have htouch : ¬ k.Touches id := by
        rintro (h | h)
        exacts [hsource h.symm, htarget h.symm]
      rw [if_neg htouch, if_neg htarget, if_neg hsource]

/-! ### Adding and updating -/

variable {s s' : Store}

theorem addNode_spec {n : Node} (h : s.addNode n = .ok s') :
    s.node? n.id = none ∧ s'.node? = Function.update s.node? n.id (some n) ∧
      s'.edge? = s.edge? ∧ s'.incident = s.incident := by
  unfold addNode at h
  split at h
  · cases h
  · next hfree =>
    obtain rfl := Except.ok.inj h
    refine ⟨by simpa using hfree, ?_, rfl, ?_⟩
    · funext id
      rw [Function.update_apply]
      exact SortedMap.find?_insert _ _ _ _
    · funext id
      simp only [incident, SortedMap.find?_insert]
      split_ifs with heq
      · rw [heq, Option.getD_some]
      · rfl

theorem exists_addNode {n : Node} (h : s.node? n.id = none) : ∃ s', s.addNode n = .ok s' := by
  unfold addNode
  rw [h]
  exact ⟨_, rfl⟩

theorem updateNode_spec {id : NodeId} {updates : PropertyMap}
    (h : s.updateNode id updates = .ok s') :
    ∃ n, s.node? id = some n ∧
      s'.node? = Function.update s.node? id
        (some { n with properties := n.properties.merge updates }) ∧
      s'.edge? = s.edge? ∧ s'.incident = s.incident := by
  unfold updateNode at h
  split at h
  · next n hn =>
    obtain rfl := Except.ok.inj h
    refine ⟨n, hn, ?_, rfl, rfl⟩
    funext id'
    rw [Function.update_apply]
    exact SortedMap.find?_insert _ _ _ _
  · cases h

theorem exists_updateNode {id : NodeId} (updates : PropertyMap) (h : (s.node? id).isSome) :
    ∃ s', s.updateNode id updates = .ok s' := by
  obtain ⟨n, hn⟩ := Option.isSome_iff_exists.mp h
  unfold updateNode
  rw [hn]
  exact ⟨_, rfl⟩

theorem addEdge_spec {e : Edge} (h : s.addEdge e = .ok s') :
    (s.node? e.source).isSome ∧ (s.node? e.target).isSome ∧ s.edge? e.key = none ∧
      s'.node? = s.node? ∧ s'.edge? = Function.update s.edge? e.key (some e) ∧
      s'.incident = fun id =>
        if e.key.Touches id then s.incident id ++ [e.key] else s.incident id := by
  unfold addEdge at h
  split at h
  · cases h
  · next hsource =>
    split at h
    · cases h
    · next htarget =>
      split at h
      · cases h
      · next hkey =>
        obtain rfl := Except.ok.inj h
        refine ⟨by simpa [Option.isSome_iff_ne_none] using hsource,
          by simpa [Option.isSome_iff_ne_none] using htarget, by simpa using hkey, rfl, ?_, ?_⟩
        · funext k
          rw [Function.update_apply]
          exact SortedMap.find?_insert _ _ _ _
        · funext id
          exact find?_enlist_ends s.incidence e.key id

theorem exists_addEdge {e : Edge} (hsource : (s.node? e.source).isSome)
    (htarget : (s.node? e.target).isSome) (hkey : s.edge? e.key = none) :
    ∃ s', s.addEdge e = .ok s' := by
  obtain ⟨n, hn⟩ := Option.isSome_iff_exists.mp hsource
  obtain ⟨m, hm⟩ := Option.isSome_iff_exists.mp htarget
  unfold addEdge
  rw [hn, hm, hkey]
  exact ⟨_, rfl⟩

theorem updateEdge_spec {key : EdgeKey} {updates : PropertyMap}
    (h : s.updateEdge key updates = .ok s') :
    ∃ e, s.edge? key = some e ∧ s'.node? = s.node? ∧
      s'.edge? = Function.update s.edge? key
        (some { e with properties := e.properties.merge updates }) ∧
      s'.incident = s.incident := by
  unfold updateEdge at h
  split at h
  · next e he =>
    obtain rfl := Except.ok.inj h
    refine ⟨e, he, rfl, ?_, rfl⟩
    funext k
    rw [Function.update_apply]
    exact SortedMap.find?_insert _ _ _ _
  · cases h

theorem exists_updateEdge {key : EdgeKey} (updates : PropertyMap) (h : (s.edge? key).isSome) :
    ∃ s', s.updateEdge key updates = .ok s' := by
  obtain ⟨e, he⟩ := Option.isSome_iff_exists.mp h
  unfold updateEdge
  rw [he]
  exact ⟨_, rfl⟩

/-! ### Removing -/

/-- Removing an edge takes its key off the lists of its two nodes.  Where the lists hold no keys of
other edges, that is the same as taking it off every list. -/
theorem removeEdge_spec (key : EdgeKey) (hkey : ∀ {e}, s.edge? key = some e → e.key = key)
    (hinc : ∀ {id}, key ∈ s.incident id → (s.edge? key).isSome ∧ key.Touches id) :
    (s.removeEdge key).1 = (s.edge? key).isSome ∧ (s.removeEdge key).2.node? = s.node? ∧
      (s.removeEdge key).2.edge? = Function.update s.edge? key none ∧
      (s.removeEdge key).2.incident = fun id => (s.incident id).filter (· ≠ key) := by
  unfold removeEdge
  split
  · next e he =>
    obtain rfl := hkey he
    refine ⟨by rw [he]; rfl, rfl, ?_, ?_⟩
    · funext k
      rw [Function.update_apply]
      exact SortedMap.find?_erase _ _ _
    · funext id
      refine (find?_delist_ends s.incidence e.key id).trans ?_
      split_ifs with htouch
      · rfl
      · refine Eq.symm (List.filter_eq_self.mpr fun k hk => ?_)
        simp only [ne_eq, decide_eq_true_eq]
        rintro rfl
        exact htouch (hinc hk).2
  · next hnone =>
    refine ⟨by rw [hnone]; rfl, rfl, ?_, ?_⟩
    · rw [← hnone, Function.update_eq_self]
    · funext id
      refine Eq.symm (List.filter_eq_self.mpr fun k hk => ?_)
      simp only [ne_eq, decide_eq_true_eq]
      rintro rfl
      rw [hnone] at hinc
      simpa using (hinc hk).1

/-- A node that is not there is removed without effect. -/
theorem eq_of_removeNode_eq_false {id : NodeId} (h : s.removeNode id = (false, s')) : s' = s := by
  unfold removeNode at h
  split at h
  · cases h
  · cases h
    rfl

theorem eq_of_removeEdge_eq_false {key : EdgeKey} (h : s.removeEdge key = (false, s')) :
    s' = s := by
  unfold removeEdge at h
  split at h
  · cases h
  · cases h
    rfl

end Store

end PropertyGraph
