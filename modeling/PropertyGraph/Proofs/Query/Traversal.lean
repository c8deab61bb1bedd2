import PropertyGraph.Proofs.Pattern.Expansion
import PropertyGraph.Query.Execution

/-!
# Filters on traversals

A traversal adds each node that it reaches once, under its id, and only nodes that pass its filter.
Since nodes that a view finds are told apart by their ids, it makes no difference whether conditions
are part of the filter or are asked of what the traversal has found (`fromRows_restrict`).
-/

namespace PropertyGraph

variable {ρ : Type} [RegexEngine ρ]

theorem Filter.allHold_append (row : Value) (fs gs : List Filter) :
    Filter.allHold row (fs ++ gs) = (Filter.allHold row fs && Filter.allHold row gs) := by
  induction fs with
  | nil => rfl
  | cons f rest ih => rw [List.cons_append, allHold, allHold, ih, Bool.and_assoc]

namespace Traversal

variable {v : GraphView} {s : Store} {t : Traversal} {limit : Nat}

/-! ### Adding nodes once -/

/-- Adds a node to those that were found, unless its id is among theirs. -/
def addNew (found : List Node) (n : Node) : List Node :=
  if found.any fun m => m.id == n.id then found else found ++ [n]

theorem mem_addNew {found : List Node} {n m : Node} (h : m ∈ addNew found n) :
    m ∈ found ∨ m = n := by
  unfold addNew at h
  split_ifs at h
  · exact Or.inl h
  · rcases List.mem_append.mp h with h | h
    · exact Or.inl h
    · exact Or.inr (List.mem_singleton.mp h)

theorem mem_foldl_addNew {found reached : List Node} {m : Node}
    (h : m ∈ reached.foldl addNew found) : m ∈ found ∨ m ∈ reached := by
  induction reached generalizing found with
  | nil => exact Or.inl h
  | cons n rest ih =>
    rcases ih h with h | h
    · rcases mem_addNew h with h | rfl
      · exact Or.inl h
      · exact Or.inr List.mem_cons_self
    · exact Or.inr (List.mem_cons_of_mem n h)

/-- Of nodes that the view finds, adding a node and keeping those that pass a test can be
exchanged. -/
theorem filter_addNew {found : List Node} {n : Node} (hfound : ∀ m ∈ found, v.Finds m)
    (hn : v.Finds n) (q : Node → Bool) :
    (addNew found n).filter q
      = if q n then addNew (found.filter q) n else found.filter q := by
  unfold addNew
  by_cases hany : found.any fun m => m.id == n.id
  · obtain ⟨m, hm, hid⟩ := List.any_eq_true.mp hany
    -- the node that has the id is the node itself: it passes the test if the new one does
    obtain rfl : m = n := (hfound m hm).eq_of_id_eq hn (eq_of_beq hid)
    rw [if_pos hany]
    split_ifs with hq hany'
    · rfl
    · refine absurd (List.any_eq_true.mpr ⟨m, List.mem_filter.mpr ⟨hm, hq⟩, ?_⟩) hany'
      exact beq_self_eq_true m.id
    · rfl
  · have hany' : ¬ (found.filter q).any fun m => m.id == n.id := by
      intro hany'
      obtain ⟨m, hm, hid⟩ := List.any_eq_true.mp hany'
      exact hany (List.any_eq_true.mpr ⟨m, List.mem_of_mem_filter hm, hid⟩)
    rw [if_neg hany, if_neg hany', List.filter_append, List.filter_singleton]
    cases q n with
    | true => rfl
    | false => exact List.append_nil _

theorem filter_foldl_addNew {found reached : List Node} (hfound : ∀ m ∈ found, v.Finds m)
    (hreached : ∀ m ∈ reached, v.Finds m) (q : Node → Bool) :
    (reached.foldl addNew found).filter q
      = (reached.filter q).foldl addNew (found.filter q) := by
  induction reached generalizing found with
  | nil => rfl
  | cons n rest ih =>
    rw [List.forall_mem_cons] at hreached
    have hnext : ∀ m ∈ addNew found n, v.Finds m := by
      intro m hm
      rcases mem_addNew hm with hm | rfl
      · exact hfound m hm
      · exact hreached.1
    rw [List.foldl_cons, ih hnext hreached.2, filter_addNew hfound hreached.1 q,
      List.filter_cons]
    split_ifs
    · rfl
    · rfl

/-! ### Conditions moved into the filter -/

/-- The traversal with more conditions in its filter. -/
def withConditions (t : Traversal) (conditions : List Filter) : Traversal :=
  { t with filter := t.filter ++ conditions }

/-- What is left of the nodes that were found where conditions are asked of them. -/
def Progress.restrict (p : Progress) (conditions : List Filter) : Progress :=
  { p with found := p.found.filter fun n => Filter.allHold n.toValue conditions }

/-- The nodes that were found are found by the view. -/
def Progress.FoundIn (v : GraphView) (p : Progress) : Prop := ∀ n ∈ p.found, v.Finds n

theorem collect_restrict {p : Progress} {e : Expansion} (hp : p.FoundIn v)
    (he : ∀ path ∈ e.paths, path.EndsIn v) (conditions : List Filter) :
    (t.collect p e).FoundIn v ∧
      (t.collect p e).restrict conditions
        = (t.withConditions conditions).collect (p.restrict conditions) e := by
  set reached := e.paths.filterMap Path.end? with hreached
  have hends : ∀ n ∈ reached, v.Finds n := by
    intro n hn
    obtain ⟨path, hpath, hend⟩ := List.mem_filterMap.mp hn
    exact he path hpath n hend
  have hpassed : ∀ n ∈ reached.filter fun n => Filter.allHold n.toValue t.filter, v.Finds n :=
    fun n hn => hends n (List.mem_of_mem_filter hn)
  constructor
  · intro n hn
    rcases mem_foldl_addNew hn with hn | hn
    · exact hp n hn
    · exact hpassed n hn
  · -- the traversal asks its own conditions first, filtering what it found asks them last
    have hfound := filter_foldl_addNew hp hpassed fun n => Filter.allHold n.toValue conditions
    have hsame : (reached.filter fun n =>
          Filter.allHold n.toValue conditions && Filter.allHold n.toValue t.filter)
        = reached.filter fun n => Filter.allHold n.toValue (t.filter ++ conditions) := by
      refine List.filter_congr fun n _ => ?_
      rw [Filter.allHold_append, Bool.and_comm]
    rw [List.filter_filter, hsame] at hfound
    exact Progress.mk.injEq .. ▸ ⟨hfound, rfl⟩

/-- Going on from a row and restricting what was found can be exchanged. -/
theorem fromRow_restrict (hv : v.Shows s) (hs : s.WellFormed) {p : Progress} (hp : p.FoundIn v)
    (row : Value) (conditions : List Filter) :
    (∀ p', t.fromRow v limit p row = .ok p' → p'.FoundIn v) ∧
      (t.fromRow v limit p row).map (·.restrict conditions)
        = (t.withConditions conditions).fromRow v limit (p.restrict conditions) row := by
  unfold fromRow
  cases rowId? row with
  | none => exact ⟨fun p' h => (by cases h), rfl⟩
  | some id =>
    dsimp only
    cases hstart : v.node? id with
    | none => exact ⟨fun p' h => Except.ok.inj h ▸ hp, rfl⟩
    | some start =>
      have he : ∀ path ∈ (v.expand start t.relationship t.minDepth t.maxDepth limit).paths,
          path.EndsIn v := hv.finds_of_mem_expand hs (hv.finds hs hstart)
      obtain ⟨hfound, hrestrict⟩ := collect_restrict (t := t) hp he conditions
      exact ⟨fun p' h => Except.ok.inj h ▸ hfound, congrArg Except.ok hrestrict⟩

/-- **Conditions of a traversal.**  A traversal with more conditions in its filter finds what the
traversal without them finds and the conditions let through, having looked at the same edges, or it
fails alike. -/
theorem fromRows_restrict (hv : v.Shows s) (hs : s.WellFormed) (rows : List Value)
    (conditions : List Filter) :
    (t.fromRows v limit rows).map (·.restrict conditions)
      = (t.withConditions conditions).fromRows v limit rows := by
  -- said of every progress, since each row goes on from what the rows before it have found
  have hrun : ∀ p : Progress, p.FoundIn v →
      (rows.foldlM (t.fromRow v limit) p).map (·.restrict conditions)
        = rows.foldlM ((t.withConditions conditions).fromRow v limit) (p.restrict conditions) := by
    induction rows with
    | nil => exact fun p _ => rfl
    | cons row rest ih =>
      intro p hp
      obtain ⟨hnext, hrow⟩ := @fromRow_restrict ρ _ v s t limit hv hs p hp row conditions
      rw [List.foldlM_cons, List.foldlM_cons, ← hrow]
      cases hrun : t.fromRow v limit p row with
      | error e => rfl
      | ok p' => exact ih p' (hnext p' hrun)
  exact hrun {} fun n hn => (List.not_mem_nil hn).elim

end Traversal

end PropertyGraph
