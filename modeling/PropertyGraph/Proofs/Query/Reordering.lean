import Mathlib.Data.Multiset.Basic
import PropertyGraph.Proofs.Query.Optimization
import PropertyGraph.Proofs.Query.Reached
import PropertyGraph.Proofs.Store.Labels
import PropertyGraph.Proofs.Transaction.Recovery

/-!
# Queries of a store in another order

A store lists the nodes of a label and the edges at a node in the order in which they were added.
Two stores may hold the same elements and differ in these lists alone (`Store.Rearranged`).

A plan that reads none of the lists answers alike on both (`execute_eq`).  Other plans may answer with
their rows in another order.  Where no step picks rows by their places and no expansion comes up to
its limit, that is all that they differ in (`execute_alike`): a traversal finds what is within reach,
in whatever order (`Rearranged.fromRows`), and the other steps have the same rows to work on.
-/

namespace PropertyGraph

variable {ρ : Type} [RegexEngine ρ]

/-- The stores hold the same elements, which they may list in different orders. -/
structure Store.Rearranged (s s' : Store) : Prop where
  reachable : s.Reachable
  reachable' : s'.Reachable
  sameElements : s'.SameElements s

/-- The rows without their order. -/
def QueryResult.bag (r : QueryResult) : Multiset Value := r.rows

namespace Store

variable {s s' : Store}

/-! ### Lists of the stores -/

namespace Rearranged

variable (h : s.Rearranged s')

include h

theorem origin?_eq (row : Value) : Traversal.origin? s'.view row = Traversal.origin? s.view row := by
  show (rowId? row).bind s'.node? = (rowId? row).bind s.node?
  rw [h.sameElements.1]

theorem finds_iff {n : Node} : s'.view.Finds n ↔ s.view.Finds n := by
  show s'.node? n.id = some n ↔ s.node? n.id = some n
  rw [h.sameElements.1]

/-- A label lists the same nodes, each as often. -/
theorem nodesWithLabel_perm (label : String) :
    (s'.nodesWithLabel label).Perm (s.nodesWithLabel label) := by
  have hlisted : (s'.labelled label).Perm (s.labelled label) := by
    rw [List.perm_iff_count]
    intro id
    rw [h.reachable'.wellLabelled, h.reachable.wellLabelled, naming_of_node?_eq h.sameElements.1]
  show ((s'.labelled label).filterMap s'.node?).Perm ((s.labelled label).filterMap s.node?)
  rw [h.sameElements.1]
  exact hlisted.filterMap _

theorem links_iff (hop : RelationshipPattern) (a b : NodeId) :
    s.view.Links hop a b ↔ s'.view.Links hop a b := by
  unfold GraphView.Links
  simp only [h.reachable.wellFormed.mem_edgesToward s.view_shows,
    h.reachable'.wellFormed.mem_edgesToward s'.view_shows, h.sameElements.2]

/-! ### Selecting and traversing -/

/-- A selector selects the same nodes. -/
theorem select (selector : Selector) :
    ∃ seen seen' selected selected', selector.select s.view = .ok (seen, selected) ∧
      selector.select s'.view = .ok (seen', selected') ∧ selected'.Perm selected := by
  cases selector with
  | id wanted =>
    exact ⟨_, _, _, _, rfl, rfl, List.Perm.of_eq (by simp only [view, h.sameElements.1])⟩
  | ids wanted =>
    exact ⟨_, _, _, _, rfl, rfl, List.Perm.of_eq (by simp only [view, h.sameElements.1])⟩
  | all => exact ⟨_, _, _, _, rfl, rfl, List.Perm.of_eq (allNodes_congr h.sameElements.1)⟩
  | label wanted => exact ⟨_, _, _, _, rfl, rfl, h.nodesWithLabel_perm wanted⟩
  | criteria labels properties =>
    cases labels with
    | nil =>
      exact ⟨_, _, _, _, rfl, rfl, (List.Perm.of_eq (allNodes_congr h.sameElements.1)).filter _⟩
    | cons first rest => exact ⟨_, _, _, _, rfl, rfl, (h.nodesWithLabel_perm first).filter _⟩

/-- An expansion that does not come up to its limit reaches the same nodes. -/
theorem reaches_iff {t : Traversal} {limit : Nat} {start n : Node}
    (huncapped : (t.expansion s.view limit start).paths.length < limit) :
    t.Reaches s'.view limit start n ↔ t.Reaches s.view limit start n := by
  have hends : (Search.ends (t.expansion s'.view limit start).paths).Perm
      (Search.ends (t.expansion s.view limit start).paths) :=
    s.view_shows.expand_perm h.reachable.wellFormed s'.view_shows h.reachable'.wellFormed
      (h.links_iff t.relationship) huncapped
  constructor
  · rintro ⟨hfinds, hpasses, hend⟩
    exact ⟨h.finds_iff.mp hfinds, hpasses, hends.mem_iff.mp hend⟩
  · rintro ⟨hfinds, hpasses, hend⟩
    exact ⟨h.finds_iff.mpr hfinds, hpasses, hends.mem_iff.mpr hend⟩

/-- A traversal finds the same nodes from the same rows, in whatever order it goes through them. -/
theorem fromRows {t : Traversal} {limit : Nat} {rows rows' : List Value} (hperm : rows'.Perm rows)
    (hrows : ∀ row ∈ rows, (rowId? row).isSome)
    (huncapped : ∀ row ∈ rows, ∀ start, Traversal.origin? s.view row = some start →
      (t.expansion s.view limit start).paths.length < limit) :
    ∃ p p', t.fromRows s.view limit rows = .ok p ∧ t.fromRows s'.view limit rows' = .ok p' ∧
      p'.found.Perm p.found := by
  have hrows' : ∀ row ∈ rows', (rowId? row).isSome := fun row hrow =>
    hrows row (hperm.mem_iff.mp hrow)
  obtain ⟨p, hp, hcomplete⟩ :=
    Traversal.fromRows_spec s.view_shows h.reachable.wellFormed t limit hrows
  obtain ⟨p', hp', hcomplete'⟩ :=
    Traversal.fromRows_spec s'.view_shows h.reachable'.wellFormed t limit hrows'
  refine ⟨p, p', hp, hp', ?_⟩
  -- both find each node once, so it is enough that they find the same ones
  rw [List.perm_ext_iff_of_nodup (List.Nodup.of_map _ hcomplete'.nodup)
    (List.Nodup.of_map _ hcomplete.nodup)]
  intro n
  rw [hcomplete'.found, hcomplete.found]
  constructor
  · rintro ⟨row, hrow, start, hstart, hreaches⟩
    have hrow := hperm.mem_iff.mp hrow
    rw [h.origin?_eq] at hstart
    exact ⟨row, hrow, start, hstart, (h.reaches_iff (huncapped row hrow start hstart)).mp hreaches⟩
  · rintro ⟨row, hrow, start, hstart, hreaches⟩
    refine ⟨row, hperm.mem_iff.mpr hrow, start, (h.origin?_eq row).trans hstart, ?_⟩
    exact (h.reaches_iff (huncapped row hrow start hstart)).mpr hreaches

end Rearranged

end Store

/-- Where some row has no id a traversal fails, whatever the graph. -/
theorem Traversal.fromRows_error (t : Traversal) {rows : List Value}
    (hrows : ¬ ∀ row ∈ rows, (rowId? row).isSome) :
    ∃ e, ∀ (v : GraphView) (limit : Nat), t.fromRows v limit rows = .error e := by
  suffices hrun : ∃ e, ∀ (v : GraphView) (limit : Nat) (p : Progress),
      rows.foldlM (t.fromRow v limit) p = .error e by
    obtain ⟨e, he⟩ := hrun
    exact ⟨e, fun v limit => he v limit {}⟩
  induction rows with
  | nil => exact absurd (fun _ h => (List.not_mem_nil h).elim) hrows
  | cons row rest ih =>
    cases hid : rowId? row with
    | none =>
      refine ⟨.invalidPlan (.rowWithoutId row), fun v limit p => ?_⟩
      rw [List.foldlM_cons]
      unfold fromRow
      rw [hid]
      rfl
    | some id =>
      -- the row that has no id is among the rest, which is come to whatever this row leads to
      obtain ⟨e, he⟩ := ih fun hrest =>
        hrows (List.forall_mem_cons.mpr ⟨Option.isSome_of_eq_some hid, hrest⟩)
      refine ⟨e, fun v limit p => ?_⟩
      rw [List.foldlM_cons]
      unfold fromRow
      rw [hid]
      dsimp only
      cases v.node? id with
      | none => exact he v limit p
      | some start => exact he v limit _

/-! ### Rows in another order -/

/-- The same error, or the same rows: in the same order, or in another one if they all have ids. -/
inductive Alike : Except Error QueryResult → Except Error QueryResult → Prop where
  | error (e : Error) : Alike (.error e) (.error e)
  | ok {r r' : QueryResult} : r'.rows.Perm r.rows →
    (r'.rows = r.rows ∨ ∀ row ∈ r.rows, (rowId? row).isSome) → Alike (.ok r) (.ok r')

theorem Alike.bag_eq {x x' : Except Error QueryResult} (h : Alike x x') :
    x'.map QueryResult.bag = x.map QueryResult.bag := by
  cases h with
  | error e => rfl
  | ok hperm _ => exact congrArg Except.ok (Multiset.coe_eq_coe.mpr hperm)

theorem Alike.of_nodes {ns ns' : List Node} {stats stats' : QueryStats} (h : ns'.Perm ns) :
    Alike (.ok ⟨ns.map Node.toValue, stats⟩) (.ok ⟨ns'.map Node.toValue, stats'⟩) := by
  refine .ok (h.map _) (Or.inr fun row hrow => ?_)
  obtain ⟨n, -, rfl⟩ := List.mem_map.mp hrow
  rw [rowId?_toValue]
  rfl

/-- The step does the same whatever the order of the rows that it gets. -/
def PlanStep.IsOrderFree : PlanStep → Prop
  | .aggregate columns => ∀ c ∈ columns, c.op = .count
  | .limit _ => False
  | _ => True

/-- Counting does not depend on the order of rows. -/
theorem Aggregation.ofRows_perm {columns : List Aggregation} (hcount : ∀ c ∈ columns, c.op = .count)
    {rows rows' : List Value} (hperm : rows'.Perm rows) :
    ofRows columns rows' = ofRows columns rows := by
  unfold ofRows
  refine congrArg Value.ofEntries (List.map_congr_left fun c hc => ?_)
  have hpresent := ((hperm.filterMap fun row => row.lookup? c.field).filter
    fun v => !v.isNull).length_eq
  unfold value
  rw [hcount c hc]
  dsimp only
  rw [hperm.length_eq, hpresent]

variable {s s' : Store} {config : MatcherConfig}

/-- **Step of a rearranged run**: on the same rows a step makes the same rows. -/
theorem PlanStep.run_alike (h : s.Rearranged s') {step : PlanStep} (hstep : step.IsOrderFree)
    {r r' : QueryResult} (hperm : r'.rows.Perm r.rows)
    (hrows : r'.rows = r.rows ∨ ∀ row ∈ r.rows, (rowId? row).isSome)
    (huncapped : ∀ t, step = .traverse t → ∀ row ∈ r.rows, ∀ start,
      Traversal.origin? s.view row = some start →
        (t.expansion s.view config.maxResults start).paths.length < config.maxResults) :
    Alike (step.run s.view config r) (step.run s'.view config r') := by
  unfold run
  cases step with
  | select selector =>
    obtain ⟨seen, seen', selected, selected', hselect, hselect', hselected⟩ := h.select selector
    dsimp only
    rw [hselect, hselect']
    exact .of_nodes hselected
  | traverse t =>
    dsimp only
    by_cases hids : ∀ row ∈ r.rows, (rowId? row).isSome
    · obtain ⟨p, p', hp, hp', hfound⟩ := h.fromRows hperm hids (huncapped t rfl)
      rw [hp, hp']
      exact .of_nodes hfound
    · -- rows without ids are in the same order, and so they lead to the same error
      obtain ⟨e, he⟩ := t.fromRows_error hids
      rw [hrows.resolve_right hids, he, he]
      exact .error e
  | filter conditions =>
    refine .ok (hperm.filter _) (hrows.imp (fun heq => ?_) fun hids row hrow => ?_)
    · exact congrArg (List.filter fun row => Filter.allHold row conditions) heq
    · exact hids row (List.mem_of_mem_filter hrow)
  | aggregate columns =>
    have hsame : [Aggregation.ofRows columns r'.rows] = [Aggregation.ofRows columns r.rows] :=
      congrArg (fun row => [row]) (Aggregation.ofRows_perm hstep hperm)
    exact .ok (List.Perm.of_eq hsame) (Or.inl hsame)
  | sort keys =>
    have hsorted : ∀ rows, (SortKey.sortRows keys rows).Perm rows :=
      fun rows => stableSort_perm _ rows
    refine .ok ((hsorted _).trans (hperm.trans (hsorted _).symm))
      (hrows.imp (fun heq => ?_) fun hids row hrow => ?_)
    · exact congrArg (SortKey.sortRows keys) heq
    · exact hids row ((hsorted _).mem_iff.mp hrow)
  | limit count => exact hstep.elim

namespace PlanTree

/-! ### Plans -/

/-- No step picks rows by their places: there are no limits, and aggregates count. -/
def OrderFree (t : PlanTree) : Prop := t.Everywhere fun step _ => step.IsOrderFree

/-- No expansion of a traversal in the plan comes up to the limit. -/
def Uncapped (v : GraphView) (config : MatcherConfig) (t : PlanTree) : Prop :=
  t.Everywhere fun step inputs => ∀ t, step = .traverse t →
    ∀ r, inputResult v config step.kind inputs = .ok r → ∀ row ∈ r.rows, ∀ start,
      Traversal.origin? v row = some start →
        (t.expansion v config.maxResults start).paths.length < config.maxResults

/-- **Run of a rearranged plan**: it makes the same rows, though perhaps in another order. -/
theorem execute_alike (h : s.Rearranged s') {t : PlanTree} (hfree : t.OrderFree)
    (huncapped : t.Uncapped s.view config) :
    Alike (t.execute s.view config) (t.execute s'.view config) := by
  induction t using induction with
  | node step inputs ih =>
    obtain ⟨hstep, hinputs⟩ := hfree
    obtain ⟨hpaths, hbelow⟩ := huncapped
    have hinput : Alike (inputResult s.view config step.kind inputs)
        (inputResult s'.view config step.kind inputs) := by
      match inputs with
      | [] => exact .ok (List.Perm.refl _) (Or.inl rfl)
      | [input] =>
        exact ih input List.mem_cons_self (hinputs input List.mem_cons_self)
          (hbelow input List.mem_cons_self)
      | _ :: _ :: _ => exact .error _
    rw [execute_node, execute_node]
    -- from here on only the two results matter, not the inputs that they come from
    generalize inputResult s.view config step.kind inputs = x at hpaths hinput
    generalize inputResult s'.view config step.kind inputs = x' at hinput
    cases hinput with
    | error e => exact .error e
    | @ok r r' hperm hrows =>
      exact step.run_alike h hstep hperm hrows fun t ht => hpaths t ht r rfl

end PlanTree

/-! ### Plans that read no lists -/

/-- The step reads no list of the nodes of a label or of the edges at a node. -/
def PlanStep.ReadsNoList : PlanStep → Prop
  | .select (.label _) | .select (.criteria (_ :: _) _) | .traverse _ => False
  | _ => True

/-- A step that reads no list sees the nodes of the store alone. -/
theorem PlanStep.run_eq (h : s'.SameElements s) {step : PlanStep} (hstep : step.ReadsNoList) :
    step.run s'.view config = step.run s.view config := by
  have hnodes : s'.view.allNodes = s.view.allNodes := congrArg Except.ok (Store.allNodes_congr h.1)
  have hnode : s'.view.node? = s.view.node? := h.1
  funext r
  unfold run
  cases step with
  | select selector =>
    have hselect : selector.select s'.view = selector.select s.view := by
      unfold Selector.select
      match selector with
      | .id _ | .ids _ => simp only [hnode]
      | .all | .criteria [] _ => simp only [hnodes]
      | .label _ | .criteria (_ :: _) _ => exact hstep.elim
    simp only [hselect]
  | traverse t => exact hstep.elim
  | filter conditions => rfl
  | aggregate columns => rfl
  | sort keys => rfl
  | limit count => rfl

/-- No step of the plan reads a list. -/
def PlanTree.ReadsNoList (t : PlanTree) : Prop := t.Everywhere fun step _ => step.ReadsNoList

/-- A plan that reads no list answers alike on stores with the same elements. -/
theorem PlanTree.execute_eq (h : s'.SameElements s) {t : PlanTree} (hlists : t.ReadsNoList) :
    t.execute s'.view config = t.execute s.view config := by
  induction t using induction with
  | node step inputs ih =>
    obtain ⟨hstep, hinputs⟩ := hlists
    have hinput : inputResult s'.view config step.kind inputs
        = inputResult s.view config step.kind inputs := by
      match inputs with
      | [] => rfl
      | [input] => exact ih input List.mem_cons_self (hinputs input List.mem_cons_self)
      | _ :: _ :: _ => rfl
    rw [execute_node, execute_node, hinput, step.run_eq h hstep]

end PropertyGraph
