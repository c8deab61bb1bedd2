import PropertyGraph.Proofs.Transaction.Recovery

/-!
# Updates taken back

A null means two things: a property may be null, and an update to null removes a property.  What is
captured of the values that an update replaces has a null for each property that was not there, so
taking the update back removes the properties that it added.  It also removes those that were null
before (`PropertyMap.merge_previousValues`): an update that is taken back leaves the store as it was
exactly if it names no property that was null (`undo_update`).
-/

namespace PropertyGraph

/-! ### Properties -/

namespace PropertyMap

variable {p updates : PropertyMap}

/-- The properties but for those that are null and that the updates name. -/
def withoutNulls (p updates : PropertyMap) : PropertyMap :=
  ⟨p.entries.filter fun e => !(updates.contains e.1 && e.2.isNull), List.Pairwise.filter _ p.sorted⟩

theorem find?_withoutNulls (p updates : PropertyMap) (key : String) :
    (p.withoutNulls updates).find? key
      = (p.find? key).filter fun v => !(updates.contains key && v.isNull) := by
  refine Option.ext fun v => ?_
  rw [SortedMap.find?_eq_some_iff, Option.filter_eq_some_iff, SortedMap.find?_eq_some_iff]
  exact List.mem_filter

/-- Merging the previous values takes an update back, but for the properties that were null. -/
theorem merge_previousValues (p updates : PropertyMap) :
    (p.merge updates).merge (RollbackData.previousValues p updates) = p.withoutNulls updates := by
  refine SortedMap.ext_find? fun key => ?_
  rw [find?_merge, find?_previousValues, find?_withoutNulls]
  by_cases hmem : key ∈ updates.keys
  · -- a named property is null among the previous values if it was null, and if it was not there
    have hnamed : updates.contains key = true := SortedMap.mem_keys_iff.mp hmem
    rw [if_pos hmem, hnamed]
    cases p.find? key with
    | none => rfl
    | some v => cases v <;> rfl
  · have hother : updates.find? key = none := by
      rwa [SortedMap.mem_keys_iff, Option.not_isSome_iff_eq_none] at hmem
    rw [if_neg hmem, find?_merge, SortedMap.contains, hother]
    cases p.find? key with
    | none => rfl
    | some v => rfl

theorem withoutNulls_eq_self_iff :
    p.withoutNulls updates = p ↔ ∀ key ∈ updates.keys, p.find? key ≠ some .null := by
  constructor
  · intro h key hmem hnull
    have hfind := find?_withoutNulls p updates key
    have hnamed : updates.contains key = true := SortedMap.mem_keys_iff.mp hmem
    rw [h, hnull, hnamed] at hfind
    cases hfind
  · intro h
    refine SortedMap.ext_find? fun key => ?_
    rw [find?_withoutNulls]
    cases hv : p.find? key with
    | none => rfl
    | some v =>
      by_cases hmem : key ∈ updates.keys
      · cases v with
        | null => exact absurd hv (h key hmem)
        | _ => simp [Value.isNull]
      · have hother : updates.contains key = false :=
          Bool.eq_false_iff.mpr fun hnamed => hmem (SortedMap.mem_keys_iff.mpr hnamed)
        rw [hother]
        rfl

end PropertyMap

/-! ### Elements replaced -/

namespace Store

variable {s : Store}

/-- The store with a node under an id, in the place of the one that it had there. -/
def setNode (s : Store) (id : NodeId) (n : Node) : Store := { s with nodes := s.nodes.insert id n }

/-- The store with an edge under a key, in the place of the one that it had there. -/
def setEdge (s : Store) (key : EdgeKey) (e : Edge) : Store :=
  { s with edges := s.edges.insert key e }

theorem node?_setNode (s : Store) (id : NodeId) (n : Node) : (s.setNode id n).node? id = some n :=
  SortedMap.find?_insert_self _ _ _

theorem edge?_setEdge (s : Store) (key : EdgeKey) (e : Edge) :
    (s.setEdge key e).edge? key = some e :=
  SortedMap.find?_insert_self _ _ _

theorem setNode_setNode (s : Store) (id : NodeId) (n n' : Node) :
    (s.setNode id n).setNode id n' = s.setNode id n' :=
  congrArg (fun nodes => { s with nodes }) (SortedMap.insert_insert _ _ _ _)

theorem setEdge_setEdge (s : Store) (key : EdgeKey) (e e' : Edge) :
    (s.setEdge key e).setEdge key e' = s.setEdge key e' :=
  congrArg (fun edges => { s with edges }) (SortedMap.insert_insert _ _ _ _)

theorem setNode_eq_self_iff {id : NodeId} {n : Node} :
    s.setNode id n = s ↔ s.node? id = some n := by
  constructor
  · intro h
    rw [← h, node?_setNode]
  · intro h
    exact congrArg (fun nodes => { s with nodes }) (SortedMap.insert_eq_self_iff.mpr h)

theorem setEdge_eq_self_iff {key : EdgeKey} {e : Edge} :
    s.setEdge key e = s ↔ s.edge? key = some e := by
  constructor
  · intro h
    rw [← h, edge?_setEdge]
  · intro h
    exact congrArg (fun edges => { s with edges }) (SortedMap.insert_eq_self_iff.mpr h)

theorem updateNode_eq {id : NodeId} {n : Node} (h : s.node? id = some n) (updates : PropertyMap) :
    s.updateNode id updates
      = .ok (s.setNode id { n with properties := n.properties.merge updates }) := by
  unfold updateNode
  rw [h]
  rfl

theorem updateEdge_eq {key : EdgeKey} {e : Edge} (h : s.edge? key = some e)
    (updates : PropertyMap) :
    s.updateEdge key updates
      = .ok (s.setEdge key { e with properties := e.properties.merge updates }) := by
  unfold updateEdge
  rw [h]
  rfl

end Store

/-! ### Updates taken back -/

/-- The mutation is captured, made and taken back, which leaves the second store behind. -/
def Mutation.TakenBack (m : Mutation) (log : List LogEntry) (s s' : Store) : Prop :=
  ∃ rollback made, (RollbackData.capture Store.backend log m).perform s = (.ok rollback, s) ∧
    (m.apply Store.backend).perform s = (.ok (), made) ∧
    (LogEntry.undo Store.backend ⟨m, rollback⟩).perform made = (.ok (), s')

theorem takenBack_updateNode {s : Store} {id : NodeId} {n : Node} (h : s.node? id = some n)
    (log : List LogEntry) (updates : PropertyMap) :
    (Mutation.updateNode id updates).TakenBack log s
      (s.setNode id { n with properties := n.properties.withoutNulls updates }) := by
  have hcapture : (RollbackData.capture Store.backend log (.updateNode id updates)).perform s
      = (.ok (.previousProperties (RollbackData.previousValues n.properties updates)), s) := by
    rw [RollbackData.capture, RollbackData.perform_ofNode Store.backend_keeps, id_eq, h]
    rfl
  refine ⟨_, _, hcapture, Store.perform_write_ok (Store.updateNode_eq h updates),
    Store.perform_write_ok ?_⟩
  rw [Store.updateNode_eq (Store.node?_setNode _ _ _), Store.setNode_setNode,
    PropertyMap.merge_previousValues]

theorem takenBack_updateEdge {s : Store} {key : EdgeKey} {e : Edge} (h : s.edge? key = some e)
    (log : List LogEntry) (updates : PropertyMap) :
    (Mutation.updateEdge key updates).TakenBack log s
      (s.setEdge key { e with properties := e.properties.withoutNulls updates }) := by
  have hcapture : (RollbackData.capture Store.backend log (.updateEdge key updates)).perform s
      = (.ok (.previousProperties (RollbackData.previousValues e.properties updates)), s) := by
    rw [RollbackData.capture, RollbackData.perform_ofEdge Store.backend_keeps, id_eq, h]
  refine ⟨_, _, hcapture, Store.perform_write_ok (Store.updateEdge_eq h updates),
    Store.perform_write_ok ?_⟩
  rw [Store.updateEdge_eq (Store.edge?_setEdge _ _ _), Store.setEdge_setEdge,
    PropertyMap.merge_previousValues]

/-- **Updates taken back.**  An update of a stored node or edge can be captured, made and taken
back, whatever the log before it, also if there are nulls among the updates.  That leaves the store
as it was, but for the properties that the update names and that were null: these are gone.  So the
store is as it was exactly if there are none. -/
theorem undo_update (s : Store) (log : List LogEntry) (updates : PropertyMap) :
    (∀ id n, s.node? id = some n →
      ∃ s', (Mutation.updateNode id updates).TakenBack log s s' ∧
        s' = s.setNode id { n with properties := n.properties.withoutNulls updates } ∧
        (s' = s ↔ ∀ key ∈ updates.keys, n.properties.find? key ≠ some .null)) ∧
    (∀ key e, s.edge? key = some e →
      ∃ s', (Mutation.updateEdge key updates).TakenBack log s s' ∧
        s' = s.setEdge key { e with properties := e.properties.withoutNulls updates } ∧
        (s' = s ↔ ∀ name ∈ updates.keys, e.properties.find? name ≠ some .null)) := by
  refine ⟨fun id n hn => ⟨_, takenBack_updateNode hn log updates, rfl, ?_⟩,
    fun key e he => ⟨_, takenBack_updateEdge he log updates, rfl, ?_⟩⟩
  · rw [Store.setNode_eq_self_iff, hn, ← PropertyMap.withoutNulls_eq_self_iff, Option.some.injEq]
    constructor
    · exact fun h => (congrArg Node.properties h).symm
    · intro h
      rw [h]
  · rw [Store.setEdge_eq_self_iff, he, ← PropertyMap.withoutNulls_eq_self_iff, Option.some.injEq]
    constructor
    · exact fun h => (congrArg Edge.properties h).symm
    · intro h
      rw [h]

/-! ### Nulls that are lost -/

namespace Store

def memoNodes : List Node := [⟨"a", [], .ofList [("note", .null), ("rank", .int 1)]⟩]

def memoEdges : List Edge := [⟨"a", "a", "cites", .ofList [("page", .null)]⟩]

/-- A node and a loop at it, each with a property that is null. -/
def memo : Store := (ofElements memoNodes memoEdges).toOption.getD empty

theorem reachable_memo : memo.Reachable :=
  reachable_ofElements (show ofElements memoNodes memoEdges = .ok memo from rfl)

end Store

open Store (memo)

/-- Overwriting one property and removing another one that is not there. -/
theorem undo_update_memo :
    (∃ s', (Mutation.updateNode "a" (.ofList [("age", .null), ("rank", .int 2)])).TakenBack [] memo
        s' ∧ s' = memo) ∧
      ∃ s', (Mutation.updateEdge ⟨"a", "a", "cites"⟩ (.ofList [("since", .int 1999)])).TakenBack []
        memo s' ∧ s' = memo := by
  obtain ⟨s₁, hback₁, -, hsame₁⟩ :=
    (undo_update memo [] (.ofList [("age", .null), ("rank", .int 2)])).1 "a" _ rfl
  obtain ⟨s₂, hback₂, -, hsame₂⟩ :=
    (undo_update memo [] (.ofList [("since", .int 1999)])).2 ⟨"a", "a", "cites"⟩ _ rfl
  refine ⟨⟨s₁, hback₁, hsame₁.mpr ?_⟩, ⟨s₂, hback₂, hsame₂.mpr ?_⟩⟩
  · intro key hkey
    rcases List.mem_pair.mp (show key ∈ ["age", "rank"] from hkey) with rfl | rfl
    · exact show none ≠ some Value.null from nofun
    · exact show some (Value.int 1) ≠ some .null from nofun
  · intro key hkey
    obtain rfl := List.mem_singleton.mp (show key ∈ ["since"] from hkey)
    exact show none ≠ some Value.null from nofun

/-- A property that was null is gone once an update of it is taken back. -/
theorem undo_update_loses_null :
    memo.Reachable ∧
      ((memo.node? "a").bind fun n => n.property? "note") = some .null ∧
      (∃ s', (Mutation.updateNode "a" (.ofList [("note", .string "seen")])).TakenBack [] memo s' ∧
        ((s'.node? "a").bind fun n => n.property? "note") = none) ∧
      ((memo.edge? ⟨"a", "a", "cites"⟩).bind fun e => e.properties.find? "page") = some .null ∧
      ∃ s', (Mutation.updateEdge ⟨"a", "a", "cites"⟩ (.ofList [("page", .int 7)])).TakenBack [] memo
        s' ∧ ((s'.edge? ⟨"a", "a", "cites"⟩).bind fun e => e.properties.find? "page") = none := by
  exact ⟨Store.reachable_memo, rfl, ⟨_, ⟨_, _, rfl, rfl, rfl⟩, rfl⟩, rfl,
    ⟨_, ⟨_, _, rfl, rfl, rfl⟩, rfl⟩⟩

end PropertyGraph
