import PropertyGraph.Proofs.Transaction.Log

/-!
# What undoing leaves to be done

While a log is undone the store does not pass back through the stores that it had: what an entry
brings back is read from the store before the transaction, not from the one before the entry.
`Recoverable s₀ done s u` relates the store `u` that has been reached in undoing to the store `s`
that the entries `done` once had made of `s₀`:

* an element of `s₀` that `s` has is in `u`, and other elements are in `u` only if `s` has them;
* an element of `s₀` that is in `u` is as it was in `s₀`, up to the properties that `done` has
  updated, unless `done` creates one of that name; undoing that creation removes it anyway.

A store in the middle of undoing an entry that removes a node is still one of these, which is why
undoing can break off and be repeated.  With nothing left to be undone, `u` has the elements of
`s₀` (`Recoverable.sameElements`).
-/

namespace PropertyGraph

/-! ### Properties up to some keys -/

namespace PropertyMap

variable {changed changed' : String → Prop} {p p₀ updates : PropertyMap}

/-- The maps agree under all keys but the changed ones. -/
def AgreesOff (changed : String → Prop) (p p₀ : PropertyMap) : Prop :=
  ∀ key, ¬ changed key → p.find? key = p₀.find? key

/-- No property is null. -/
def NullFree (p : PropertyMap) : Prop := ∀ key, p.find? key ≠ some .null

theorem AgreesOff.eq (h : AgreesOff (fun _ => False) p p₀) : p = p₀ :=
  SortedMap.ext_find? fun key => h key not_false

theorem AgreesOff.mono (h : AgreesOff changed p p₀) (hle : ∀ key, changed key → changed' key) :
    AgreesOff changed' p p₀ :=
  fun key hkey => h key fun hc => hkey (hle key hc)

/-- An update changes the properties that it names. -/
theorem AgreesOff.merge (h : AgreesOff changed p p₀)
    (hle : ∀ key, changed key ∨ key ∈ updates.keys → changed' key) :
    AgreesOff changed' (p.merge updates) p₀ := by
  intro key hkey
  have hnone : updates.find? key = none := by
    rw [Option.eq_none_iff_forall_ne_some]
    intro v hv
    exact hkey (hle key (Or.inr (SortedMap.mem_keys_iff.mpr (Option.isSome_of_eq_some hv))))
  rw [find?_merge, hnone]
  exact h key fun hc => hkey (hle key (Or.inl hc))

theorem find?_previousValues (key : String) :
    (RollbackData.previousValues p₀ updates).find? key
      = if key ∈ updates.keys then some ((p₀.find? key).getD .null) else none :=
  SortedMap.find?_ofList_map _ _ key

/-- Merging the previous values takes an update back: a null stands for a property that was not
there, so no property may have been null before. -/
theorem AgreesOff.merge_previousValues (h : AgreesOff changed p p₀) (hnull : p₀.NullFree)
    (hle : ∀ key, changed key → changed' key ∨ key ∈ updates.keys) :
    AgreesOff changed' (p.merge (RollbackData.previousValues p₀ updates)) p₀ := by
  intro key hkey
  rw [find?_merge, find?_previousValues]
  by_cases hmem : key ∈ updates.keys
  · rw [if_pos hmem]
    cases hv : p₀.find? key with
    | none => rfl
    | some v =>
      have hnn : v.isNull = false := by
        cases v with
        | null => exact absurd hv (hnull key)
        | _ => rfl
      simp only [Option.getD_some, hnn]
      rfl
  · rw [if_neg hmem]
    exact h key fun hc => (hle key hc).elim hkey hmem

end PropertyMap

/-- The nodes differ in changed properties only. -/
structure Node.AgreesOff (changed : String → Prop) (n n₀ : Node) : Prop where
  id : n.id = n₀.id
  labels : n.labels = n₀.labels
  properties : n.properties.AgreesOff changed n₀.properties

/-- The edges differ in changed properties only. -/
structure Edge.AgreesOff (changed : String → Prop) (e e₀ : Edge) : Prop where
  source : e.source = e₀.source
  target : e.target = e₀.target
  label : e.label = e₀.label
  properties : e.properties.AgreesOff changed e₀.properties

namespace Node.AgreesOff

variable {changed changed' : String → Prop} {n n₀ : Node}

theorem refl (changed : String → Prop) (n : Node) : AgreesOff changed n n :=
  ⟨rfl, rfl, fun _ _ => rfl⟩

theorem mono (h : AgreesOff changed n n₀) (hle : ∀ key, changed key → changed' key) :
    AgreesOff changed' n n₀ :=
  ⟨h.id, h.labels, h.properties.mono hle⟩

theorem eq (h : AgreesOff (fun _ => False) n n₀) : n = n₀ := by
  obtain ⟨id, labels, properties⟩ := n
  obtain ⟨rfl, rfl, hprops⟩ := h
  obtain rfl := hprops.eq
  rfl

end Node.AgreesOff

namespace Edge.AgreesOff

variable {changed changed' : String → Prop} {e e₀ : Edge}

theorem refl (changed : String → Prop) (e : Edge) : AgreesOff changed e e :=
  ⟨rfl, rfl, rfl, fun _ _ => rfl⟩

theorem mono (h : AgreesOff changed e e₀) (hle : ∀ key, changed key → changed' key) :
    AgreesOff changed' e e₀ :=
  ⟨h.source, h.target, h.label, h.properties.mono hle⟩

theorem eq (h : AgreesOff (fun _ => False) e e₀) : e = e₀ := by
  obtain ⟨source, target, label, properties⟩ := e
  obtain ⟨rfl, rfl, rfl, hprops⟩ := h
  obtain rfl := hprops.eq
  rfl

end Edge.AgreesOff

/-! ### Lookups that can be recovered -/

section Recovers

variable {κ α : Type} {original forward forward' current current' : κ → Option α}
variable {made made' : κ → Prop} {agrees agrees' : κ → α → α → Prop}

/-- What of the original lookups can be had back from the current ones: `forward` are the lookups
that are to be undone, `made` the keys under which something new was put on the way to them, and
`agrees` what holds of an original that only was changed. -/
structure Recovers (original forward current : κ → Option α) (made : κ → Prop)
    (agrees : κ → α → α → Prop) : Prop where
  kept : ∀ {k}, (original k).isSome → (forward k).isSome → (current k).isSome
  known : ∀ {k}, original k = none → (current k).isSome → (forward k).isSome
  agrees : ∀ {k x₀ x}, original k = some x₀ → current k = some x → ¬ made k → agrees k x x₀

namespace Recovers

/-- With nothing to be undone the originals are back. -/
theorem eq (h : Recovers original original current made agrees) (hmade : ∀ k, ¬ made k)
    (heq : ∀ {k x x₀}, agrees k x x₀ → x = x₀) : current = original := by
  funext k
  cases hk : original k with
  | none =>
    by_contra hne
    have hcur : (current k).isSome := Option.isSome_iff_ne_none.mpr hne
    have horig := h.known hk hcur
    rw [hk] at horig
    cases horig
  | some x₀ =>
    have hsome : (original k).isSome := Option.isSome_of_eq_some hk
    obtain ⟨x, hx⟩ := Option.isSome_iff_exists.mp (h.kept hsome hsome)
    rw [hx, heq (h.agrees hk hx (hmade k))]

theorem mono (h : Recovers original forward current made agrees)
    (hmade : ∀ k, made k → made' k) (hagrees : ∀ {k x x₀}, agrees k x x₀ → agrees' k x x₀) :
    Recovers original forward current made' agrees' :=
  ⟨h.kept, h.known, fun hk hx hm => hagrees (h.agrees hk hx fun hm' => hm (hmade _ hm'))⟩

/-- Taking away what the forward lookups do not have. -/
theorem shrink (h : Recovers original forward current made agrees)
    (hcur : ∀ k, current' k = current k ∨ current' k = none ∧ forward k = none) :
    Recovers original forward current' made agrees := by
  refine ⟨fun {k} hk hf => ?_, fun {k} hk hc => ?_, fun {k x₀ x} hk hx hm => ?_⟩
  · rcases hcur k with heq | ⟨-, hnone⟩
    · rw [heq]
      exact h.kept hk hf
    · rw [hnone] at hf
      cases hf
  · rcases hcur k with heq | ⟨hnone, -⟩
    · exact h.known hk (heq ▸ hc)
    · rw [hnone] at hc
      cases hc
  · rcases hcur k with heq | ⟨hnone, -⟩
    · exact h.agrees hk (heq ▸ hx) hm
    · rw [hnone] at hx
      cases hx

/-- Putting originals back never does harm. -/
theorem restore (h : Recovers original forward current made agrees)
    (hrefl : ∀ k x, agrees k x x) (hcur : ∀ k, current' k = current k ∨ current' k = original k) :
    Recovers original forward current' made agrees := by
  refine ⟨fun {k} hk hf => ?_, fun {k} hk hc => ?_, fun {k x₀ x} hk hx hm => ?_⟩
  · rcases hcur k with heq | heq
    · rw [heq]
      exact h.kept hk hf
    · rw [heq]
      exact hk
  · rcases hcur k with heq | heq
    · exact h.known hk (heq ▸ hc)
    · rw [heq, hk] at hc
      cases hc
  · rcases hcur k with heq | heq
    · exact h.agrees hk (heq ▸ hx) hm
    · rw [heq, hk] at hx
      obtain rfl := Option.some.inj hx
      exact hrefl k x₀

/-- A removal is undone where the originals among what it removed are back. -/
theorem unremove (h : Recovers original forward' current made agrees)
    (hfwd : ∀ k, forward' k = forward k ∨ forward' k = none)
    (hback : ∀ {k}, (original k).isSome → (forward k).isSome → forward' k = none →
      (current k).isSome) :
    Recovers original forward current made agrees := by
  refine ⟨fun {k} hk hf => ?_, fun {k} hk hc => ?_, h.agrees⟩
  · rcases hfwd k with heq | hnone
    · exact h.kept hk (heq ▸ hf)
    · exact hback hk hf hnone
  · have hf := h.known hk hc
    rcases hfwd k with heq | hnone
    · rwa [heq] at hf
    · rw [hnone] at hf
      cases hf

variable [DecidableEq κ] {key : κ} {x' : α}

/-- A creation is undone by a removal. -/
theorem unmake (h : Recovers original (Function.update forward key (some x')) current made agrees)
    (hfree : forward key = none) (hmade : ∀ k, made k → k = key ∨ made' k) :
    Recovers original forward (Function.update current key none) made' agrees := by
  refine ⟨fun {k} hk hf => ?_, fun {k} hk hc => ?_, fun {k x₀ x} hk hx hm => ?_⟩
  · have hne : k ≠ key := by
      rintro rfl
      rw [hfree] at hf
      cases hf
    rw [Function.update_of_ne hne]
    exact h.kept hk (by rwa [Function.update_of_ne hne])
  · by_cases heq : k = key
    · rw [heq, Function.update_self] at hc
      cases hc
    · rw [Function.update_of_ne heq] at hc
      have := h.known hk hc
      rwa [Function.update_of_ne heq] at this
  · by_cases heq : k = key
    · rw [heq, Function.update_self] at hx
      cases hx
    · rw [Function.update_of_ne heq] at hx
      exact h.agrees hk hx fun hm' => (hmade k hm').elim heq hm

/-- The update of something that is no original needs no undoing. -/
theorem unchange_new
    (h : Recovers original (Function.update forward key (some x')) current made agrees)
    (hnew : original key = none) (hthere : (forward key).isSome)
    (hagrees : ∀ {k x x₀}, k ≠ key → agrees k x x₀ → agrees' k x x₀) :
    Recovers original forward current made agrees' := by
  have hsame : ∀ {k}, (Function.update forward key (some x') k).isSome ↔ (forward k).isSome := by
    intro k
    by_cases heq : k = key
    · simp [heq, hthere]
    · rw [Function.update_of_ne heq]
  refine ⟨fun hk hf => h.kept hk (hsame.mpr hf), fun hk hc => hsame.mp (h.known hk hc),
    fun {k x₀ x} hk hx hm => ?_⟩
  refine hagrees ?_ (h.agrees hk hx hm)
  rintro rfl
  rw [hnew] at hk
  cases hk

/-- The update of an original is undone by any change of it that brings the agreement back. -/
theorem unchange {x y x₀ : α}
    (h : Recovers original (Function.update forward key (some x')) current made agrees)
    (horig : original key = some x₀) (hcur : current key = some x) (hthere : (forward key).isSome)
    (hagrees : ∀ {k x x₀}, k ≠ key → agrees k x x₀ → agrees' k x x₀)
    (hback : agrees key x x₀ → agrees' key y x₀) :
    Recovers original forward (Function.update current key (some y)) made agrees' := by
  have hfwd : ∀ {k}, (Function.update forward key (some x') k).isSome ↔ (forward k).isSome := by
    intro k
    by_cases heq : k = key
    · simp [heq, hthere]
    · rw [Function.update_of_ne heq]
  have hnow : ∀ {k}, (Function.update current key (some y) k).isSome ↔ (current k).isSome := by
    intro k
    by_cases heq : k = key
    · simp [heq, hcur]
    · rw [Function.update_of_ne heq]
  refine ⟨fun hk hf => hnow.mpr (h.kept hk (hfwd.mpr hf)),
    fun hk hc => hfwd.mp (h.known hk (hnow.mp hc)), fun {k z₀ z} hk hz hm => ?_⟩
  by_cases heq : k = key
  · subst heq
    rw [Function.update_self] at hz
    obtain rfl := Option.some.inj hz
    rw [horig] at hk
    obtain rfl := Option.some.inj hk
    exact hback (h.agrees horig hcur hm)
  · rw [Function.update_of_ne heq] at hz
    exact hagrees heq (h.agrees hk hz hm)

end Recovers

end Recovers

/-! ### What a log creates and changes -/

namespace LogEntry

/-- Some entry of a log updates a property of the node. -/
def ChangesNode (log : List LogEntry) (id : NodeId) (key : String) : Prop :=
  ∃ entry ∈ log, ∃ updates, entry.mutation = .updateNode id updates ∧ key ∈ updates.keys

/-- Some entry of a log updates a property of the edge. -/
def ChangesEdge (log : List LogEntry) (edge : EdgeKey) (key : String) : Prop :=
  ∃ entry ∈ log, ∃ updates, entry.mutation = .updateEdge edge updates ∧ key ∈ updates.keys

variable {log : List LogEntry} {entry : LogEntry}

theorem createsNode_snoc (id : NodeId) :
    createsNode (log ++ [entry]) id
      ↔ createsNode log id ∨ entry.mutation.createdNode? = some id := by
  simp [createsNode, List.any_append]

theorem createsEdge_snoc (key : EdgeKey) :
    createsEdge (log ++ [entry]) key
      ↔ createsEdge log key ∨ entry.mutation.createdEdge? = some key := by
  simp [createsEdge, List.any_append]

theorem changesNode_snoc {id : NodeId} {key : String} :
    ChangesNode (log ++ [entry]) id key
      ↔ ChangesNode log id key ∨
        ∃ updates, entry.mutation = .updateNode id updates ∧ key ∈ updates.keys := by
  simp only [ChangesNode, List.mem_append, List.mem_singleton, or_and_right, exists_or,
    exists_eq_left]

theorem changesEdge_snoc {edge : EdgeKey} {key : String} :
    ChangesEdge (log ++ [entry]) edge key
      ↔ ChangesEdge log edge key ∨
        ∃ updates, entry.mutation = .updateEdge edge updates ∧ key ∈ updates.keys := by
  simp only [ChangesEdge, List.mem_append, List.mem_singleton, or_and_right, exists_or,
    exists_eq_left]

end LogEntry

/-! ### Stores that can be recovered -/

/-- The same nodes under all ids and the same edges under all keys, with their labels and
properties. -/
def Store.SameElements (s s' : Store) : Prop := s.node? = s'.node? ∧ s.edge? = s'.edge?

/-- No node or edge has a null among its properties. -/
structure Store.NullFree (s : Store) : Prop where
  nodes : ∀ {id n}, s.node? id = some n → n.properties.NullFree
  edges : ∀ {key e}, s.edge? key = some e → e.properties.NullFree

theorem Store.nullFree_of_entries {s : Store}
    (hnodes : ∀ p ∈ s.nodes.entries, ∀ q ∈ p.2.properties.entries, q.2.isNull = false)
    (hedges : ∀ p ∈ s.edges.entries, ∀ q ∈ p.2.properties.entries, q.2.isNull = false) :
    s.NullFree := by
  have hfree : ∀ {p : PropertyMap}, (∀ q ∈ p.entries, q.2.isNull = false) → p.NullFree := by
    intro p hp key hkey
    cases hp _ (Entries.mem_of_find?_eq_some hkey)
  exact ⟨fun hn => hfree (hnodes _ (Entries.mem_of_find?_eq_some hn)),
    fun he => hfree (hedges _ (Entries.mem_of_find?_eq_some he))⟩

open LogEntry (createsNode createsEdge ChangesNode ChangesEdge createsNode_snoc createsEdge_snoc
  changesNode_snoc changesEdge_snoc)

/-- What undoing the entries `done` needs to find: they made `s` of `s₀`, and `u` is the store that
has been reached. -/
structure Recoverable (s₀ : Store) (done : List LogEntry) (s u : Store) : Prop where
  wellFormed : u.WellFormed
  nodes : Recovers s₀.node? s.node? u.node? (fun id => createsNode done id)
    fun id => Node.AgreesOff (ChangesNode done id)
  edges : Recovers s₀.edge? s.edge? u.edge? (fun key => createsEdge done key)
    fun key => Edge.AgreesOff (ChangesEdge done key)

variable {s₀ s u : Store} {done : List LogEntry}

/-- With nothing left to be undone the elements are those of the first store. -/
theorem Recoverable.sameElements (h : Recoverable s₀ [] s₀ u) : u.SameElements s₀ := by
  have hnode : ∀ id key, ¬ ChangesNode [] id key := by
    rintro id key ⟨entry, hmem, -⟩
    exact List.not_mem_nil hmem
  have hedge : ∀ edge key, ¬ ChangesEdge [] edge key := by
    rintro edge key ⟨entry, hmem, -⟩
    exact List.not_mem_nil hmem
  exact ⟨h.nodes.eq (fun _ hm => by cases hm) fun ha => (ha.mono (hnode _)).eq,
    h.edges.eq (fun _ hm => by cases hm) fun ha => (ha.mono (hedge _)).eq⟩

/-- The store that a log has made can be recovered from. -/
theorem Applied.recoverable (hs₀ : s₀.WellFormed) (h : Applied s₀ done s) :
    Recoverable s₀ done s s := by
  induction h with
  | nil =>
    refine ⟨hs₀, ⟨fun hk _ => hk, fun _ hc => hc, fun {id n₀ n} h₀ hn _ => ?_⟩,
      ⟨fun hk _ => hk, fun _ hc => hc, fun {key e₀ e} h₀ he _ => ?_⟩⟩
    · rw [h₀] at hn
      obtain rfl := Option.some.inj hn
      exact Node.AgreesOff.refl _ _
    · rw [h₀] at he
      obtain rfl := Option.some.inj he
      exact Edge.AgreesOff.refl _ _
  | @snoc done entry s s' hdone hchange ih =>
    have hs := hdone.wellFormed hs₀
    refine ⟨hchange.wellFormed hs, ⟨fun _ hf => hf, fun _ hc => hc, fun {id n₀ n} h₀ hn hmade => ?_⟩,
      ⟨fun _ hf => hf, fun _ hc => hc, fun {key e₀ e} h₀ he hmade => ?_⟩⟩
    · have hmade' := (not_congr (createsNode_snoc id)).mp hmade
      rw [not_or] at hmade'
      rcases hchange.node? hs hn with hcreate | hsame | ⟨n', updates, hm, hn', rfl⟩
      · exact absurd hcreate hmade'.2
      · exact (ih.nodes.agrees h₀ hsame hmade'.1).mono fun key hc => changesNode_snoc.mpr (Or.inl hc)
      · have ha := ih.nodes.agrees h₀ hn' hmade'.1
        refine ⟨ha.id, ha.labels, ha.properties.merge fun key hc => changesNode_snoc.mpr ?_⟩
        exact hc.imp_right fun hmem => ⟨updates, hm, hmem⟩
    · have hmade' := (not_congr (createsEdge_snoc key)).mp hmade
      rw [not_or] at hmade'
      rcases hchange.edge? hs he with hcreate | hsame | ⟨e', updates, hm, he', rfl⟩
      · exact absurd hcreate hmade'.2
      · exact (ih.edges.agrees h₀ hsame hmade'.1).mono fun key hc => changesEdge_snoc.mpr (Or.inl hc)
      · have ha := ih.edges.agrees h₀ he' hmade'.1
        refine ⟨ha.source, ha.target, ha.label,
          ha.properties.merge fun key hc => changesEdge_snoc.mpr ?_⟩
        exact hc.imp_right fun hmem => ⟨updates, hm, hmem⟩

/-- What a rollback can start from: some of the first entries of a log made a store, and what is
there now is recoverable with them. -/
def Revocable (s₀ : Store) (log : List LogEntry) (applied : Nat) (u : Store) : Prop :=
  applied ≤ log.length ∧
    ∃ s, Applied s₀ (log.take applied) s ∧ Recoverable s₀ (log.take applied) s u

end PropertyGraph
