import PropertyGraph.Engine.Query
import PropertyGraph.Proofs.Query.Execution
import PropertyGraph.Proofs.Query.Filter
import PropertyGraph.Proofs.Query.Validation
import PropertyGraph.Proofs.Store.Labels
import PropertyGraph.Proofs.Value.Paths

/-!
# Criteria and filters

A query can ask for the nodes of a label with certain properties in two ways: by criteria that hold
the label and the properties, or by a selection of the label and a filter on the properties.  The
criteria are compared with the properties of a node, the filter with its row.  Of pairs that mean a
property in either place (`MeansProperty`) both ask the same, that a node has a property equal to
each (`Node.hasEqual`), so the two queries have the same rows (`query_criteria`).
-/

namespace PropertyGraph

section AnyEngine

variable {ρ : Type} [RegexEngine ρ]

/-! ### Rows of nodes -/

/-- A key that is not a path and not the name of a part of the row finds a property. -/
theorem Node.lookup?_toValue (n : Node) {key : String} (hpath : '.' ∉ key.toList)
    (hpart : key ∉ ["id", "labels", "properties"]) : n.toValue.lookup? key = n.property? key := by
  simp only [List.mem_cons, List.not_mem_nil, or_false, not_or] at hpart
  obtain ⟨hid, hlabels, hproperties⟩ := hpart
  have hrow : n.toValue.path? key = none := by
    rw [Value.path?_of_notMem _ hpath]
    simp [Node.toValue, Value.segment?, Entries.find?, Ne.symm hid, Ne.symm hlabels,
      Ne.symm hproperties]
  have hbelow : (Value.ofProperties n.properties).path? key = n.property? key :=
    Value.path?_of_notMem _ hpath
  unfold Value.lookup?
  rw [hrow]
  exact hbelow

/-! ### Pairs -/

/-- A pair that asks for a property, in criteria as in a filter: its key is neither a path nor
reserved nor the name of something else, and its value is neither null nor an object of
operators. -/
structure MeansProperty (pair : String × Json) : Prop where
  noPath : '.' ∉ pair.1.toList
  free : ¬ IsReserved pair.1
  noPart : pair.1 ∉ ["id", "label", "labels", "properties"]
  present : pair.2 ≠ .null
  literal : ¬ Filter.IsOperators pair.2

/-- The node has a property that is loosely equal to the one of a pair. -/
def Node.hasEqual (n : Node) (pair : String × Json) : Bool :=
  (n.property? pair.1).any fun v => v.looseEquals (Value.ofJson pair.2)

theorem Value.looseEquals_null_ofJson {given : Json} (h : given ≠ .null) :
    Value.null.looseEquals (Value.ofJson given) = false := by
  cases given with
  | null => exact absurd rfl h
  | number n =>
    rw [ofJson, ofNumber]
    cases n.toInt64? <;> rfl
  | _ => rfl

namespace Filter

/-- To a filter, a missing property is null, which is not equal to anything that a pair asks for. -/
theorem meetsEntry_toValue_iff {pair : String × Json} (h : MeansProperty pair) (n : Node) :
    MeetsEntry n.toValue pair.1 pair.2 ↔ n.hasEqual pair := by
  have hpart : pair.1 ∉ ["id", "labels", "properties"] :=
    fun hmem => h.noPart (List.Sublist.mem hmem (by decide))
  rw [meetsEntry_literal_iff h.free n.toValue h.literal, n.lookup?_toValue h.noPath hpart,
    Node.hasEqual]
  cases n.property? pair.1 with
  | none => simp [Value.looseEquals_null_ofJson h.present]
  | some v => rfl

/-- The filter of pairs holds of the rows of the nodes with equal properties. -/
theorem ofJson_pairs {pairs : List (String × Json)} (h : ∀ p ∈ pairs, MeansProperty p) :
    ∃ filters, ofJson (.object pairs) = .ok filters ∧
      ∀ n : Node, allHold n.toValue filters = pairs.all n.hasEqual := by
  have hanswers := ofJson_answers (.object pairs)
  have hacceptable : Acceptable (.object pairs) :=
    .record fun p hp => .literal (h p hp).free (h p hp).literal
  cases hread : ofJson (.object pairs) with
  | error e =>
    rw [hread] at hanswers
    exact absurd hacceptable hanswers
  | ok filters =>
    rw [hread] at hanswers
    refine ⟨filters, rfl, fun n => Bool.eq_iff_iff.mpr ?_⟩
    refine (hanswers.2 n.toValue).trans ((meets_object_iff n.toValue pairs).trans ?_)
    rw [List.all_eq_true]
    exact forall₂_congr fun p hp => meetsEntry_toValue_iff (h p hp) n

end Filter

/-! ### Criteria -/

/-- The entry of a property map that a pair stands for. -/
def criterion (pair : String × Json) : String × Value := (pair.1, Value.ofJson pair.2)

/-- Pairs at the front of criteria are added to the properties. -/
theorem criteriaOf_append {pairs : List (String × Json)} (h : ∀ p ∈ pairs, MeansProperty p)
    (labels : List String) (properties : PropertyMap) (rest : List (String × Json)) :
    criteriaOf labels properties (pairs ++ rest)
      = criteriaOf labels
        ((pairs.map criterion).foldl (fun m e => m.insert e.1 e.2) properties) rest := by
  induction pairs generalizing properties with
  | nil => rfl
  | cons p others ih =>
    obtain ⟨hp, hothers⟩ := List.forall_mem_cons.mp h
    have hpart := hp.noPart
    simp only [List.mem_cons, List.not_mem_nil, or_false, not_or] at hpart
    obtain ⟨-, hlabel, hlabels, hproperties⟩ := hpart
    rw [List.cons_append, criteriaOf, if_neg hlabel, if_neg hlabels, if_neg hproperties,
      ih hothers]
    rfl

section Criteria

variable {label : String} {pairs criteria : List (String × Json)}

/-- A label and pairs in any order are read as one label and the properties of the pairs. -/
theorem criteriaOf_perm (hpairs : ∀ p ∈ pairs, MeansProperty p)
    (hnodup : (pairs.map Prod.fst).Nodup)
    (hcriteria : criteria.Perm (("label", .string label) :: pairs)) :
    ∃ properties, criteriaOf [] .empty criteria = .ok ([label], properties) ∧
      ∀ e, e ∈ properties.entries ↔ e ∈ pairs.map criterion := by
  obtain ⟨before, after, rfl⟩ :=
    List.append_of_mem (hcriteria.mem_iff.mpr List.mem_cons_self)
  -- the pairs stand before and after the label
  have hperm : (before ++ after).Perm pairs :=
    (List.perm_middle.symm.trans hcriteria).cons_inv
  have hall : ∀ p ∈ before ++ after, MeansProperty p := fun p hp => hpairs p (hperm.mem_iff.mp hp)
  have hbefore : ∀ p ∈ before, MeansProperty p := fun p hp => hall p (List.mem_append_left _ hp)
  have hafter : ∀ p ∈ after, MeansProperty p := fun p hp => hall p (List.mem_append_right _ hp)
  have hkeys : (((before ++ after).map criterion).map Prod.fst).Nodup := by
    rw [List.map_map]
    exact (hperm.map Prod.fst).nodup_iff.mpr hnodup
  refine ⟨SortedMap.ofList ((before ++ after).map criterion), ?_, fun ⟨key, v⟩ => ?_⟩
  · have hread := criteriaOf_append hafter [label]
      ((before.map criterion).foldl (fun m e => m.insert e.1 e.2) .empty) []
    rw [List.append_nil] at hread
    rw [criteriaOf_append hbefore, SortedMap.ofList, List.map_append, List.foldl_append]
    exact hread
  · rw [← SortedMap.find?_eq_some_iff, SortedMap.find?_ofList hkeys,
      ← (hperm.map criterion).mem_iff]
    exact ⟨Entries.mem_of_find?_eq_some, Entries.find?_eq_some_of_nodup hkeys⟩

/-- Criteria are met by the nodes of the label with equal properties. -/
theorem Node.meets_iff (n : Node) {properties : PropertyMap}
    (h : ∀ e, e ∈ properties.entries ↔ e ∈ pairs.map criterion) :
    n.meets [label] properties = (n.hasLabel label && pairs.all n.hasEqual) := by
  have hall : (properties.entries.all fun e => (n.property? e.1).any fun v => v.looseEquals e.2)
      = pairs.all n.hasEqual := by
    rw [Bool.eq_iff_iff, List.all_eq_true, List.all_eq_true]
    simp only [h, List.forall_mem_map]
    rfl
  rw [Node.meets, List.all_cons, List.all_nil, Bool.and_true, ← hall]
  congr 2
  funext ⟨key, wanted⟩
  dsimp only
  cases n.property? key <;> rfl

end Criteria

/-! ### Selections -/

theorem afterStart?_append (start text : String) :
    afterStart? start (start ++ text) = some text := by
  have hdrop : (start.toList ++ text.toList).drop start.length = text.toList := by
    rw [← String.length_toList, List.drop_left]
  simp [afterStart?, hdrop]

theorem Selector.ofJson_label {label : String} (h : label ≠ "") :
    Selector.ofJson (.string ("label:" ++ label)) = .ok (.label label) := by
  have hempty : "label:" ++ label ≠ "" := by simp
  have hall : "label:" ++ label ≠ "*" := by
    intro heq
    have hlist := congrArg String.toList heq
    simp at hlist
  rw [Selector.ofJson, if_neg hempty, if_neg hall, afterStart?_append]
  exact if_neg h

/-! ### Queries -/

section Queries

variable {config : EngineConfig} {v : GraphView}

/-- A record that is read to a plan within the limit is answered by its optimized plan. -/
theorem EngineConfig.query_of_ofRecord {record : Json} {tree : PlanTree}
    (hread : PlanTree.ofRecord record = .ok tree) (hdepth : tree.depth ≤ config.parser.maxDepth) :
    config.query v record = tree.optimize.execute v config.matcher := by
  have hvalid : ((QueryPlan.of tree).root.validate config.parser.maxDepth).errors = [] :=
    (tree.errors_eq_nil_iff config.parser.maxDepth).mpr ⟨hdepth, PlanTree.ofRecord_faultless hread⟩
  have hplan : config.plan record = .ok (QueryPlan.of tree).optimize := by
    unfold EngineConfig.plan QueryPlan.ofRecord
    rw [hread]
    dsimp only [bind, pure, Except.bind, Except.pure]
    rw [hvalid]
  rw [EngineConfig.query, hplan]
  rfl

/-- A record with a selection only. -/
theorem PlanTree.ofRecord_select {select : Json} {selector : Selector}
    (h : Selector.ofJson select = .ok selector) :
    PlanTree.ofRecord (.object [("select", select)]) = .ok (.leaf (.select selector)) := by
  unfold PlanTree.ofRecord
  show (Selector.ofJson select >>= _) = _
  rw [h]
  rfl

/-- A record with a selection and a filter, which leaves no step if it is empty. -/
theorem PlanTree.ofRecord_select_filter {select filter : Json} {selector : Selector}
    {filters : List Filter} (h : Selector.ofJson select = .ok selector)
    (hfilter : Filter.ofJson filter = .ok filters) :
    PlanTree.ofRecord (.object [("select", select), ("filter", filter)])
      = .ok (if filters.isEmpty then .leaf (.select selector)
        else .wrap (.filter filters) (.leaf (.select selector))) := by
  cases filter with
  | object members =>
    unfold PlanTree.ofRecord
    show (Selector.ofJson select >>= _) = _
    rw [h]
    show (((Filter.ofJson (.object members) >>= _) >>= _) >>= _) = _
    rw [hfilter]
    cases filters <;> rfl
  | _ => cases hfilter

/-- A selection makes the rows of the nodes that it selects. -/
theorem PlanTree.execute_select {selector : Selector} {seen selected : List Node}
    (h : selector.select v = .ok (seen, selected)) (matcher : MatcherConfig) :
    ∃ stats, (PlanTree.leaf (.select selector)).execute v matcher
      = .ok ⟨selected.map Node.toValue, stats⟩ := by
  rw [leaf, execute_node]
  show ∃ stats, (selector.select v >>= _) = _
  rw [h]
  exact ⟨_, rfl⟩

theorem EngineConfig.query_select {select : Json} {selector : Selector} {seen selected : List Node}
    (hlimit : 1 ≤ config.parser.maxDepth) (hread : Selector.ofJson select = .ok selector)
    (hselect : selector.select v = .ok (seen, selected)) :
    ∃ r, config.query v (.object [("select", select)]) = .ok r ∧
      r.rows = selected.map Node.toValue := by
  obtain ⟨stats, hexecute⟩ := PlanTree.execute_select hselect config.matcher
  rw [query_of_ofRecord (PlanTree.ofRecord_select hread) hlimit]
  exact ⟨_, hexecute, rfl⟩

/-- A filter leaves the rows of a selection that it holds of. -/
theorem EngineConfig.query_select_filter {select filter : Json} {selector : Selector}
    {filters : List Filter} {seen selected : List Node}
    (hlimit : 2 ≤ config.parser.maxDepth) (hread : Selector.ofJson select = .ok selector)
    (hfilter : Filter.ofJson filter = .ok filters)
    (hselect : selector.select v = .ok (seen, selected)) :
    ∃ r, config.query v (.object [("select", select), ("filter", filter)]) = .ok r ∧
      r.rows = (selected.map Node.toValue).filter fun row => Filter.allHold row filters := by
  obtain ⟨stats, hexecute⟩ := PlanTree.execute_select hselect config.matcher
  have hrecord := PlanTree.ofRecord_select_filter hread hfilter
  cases filters with
  | nil =>
    -- there is no step, and no condition that any row could fail
    rw [query_of_ofRecord hrecord (Nat.le_of_succ_le hlimit)]
    exact ⟨_, hexecute, (List.filter_eq_self.mpr fun _ _ => rfl).symm⟩
  | cons first rest =>
    rw [query_of_ofRecord hrecord hlimit]
    show ∃ r, (PlanTree.node (.filter (first :: rest)) [.leaf (.select selector)]).execute v
      config.matcher = .ok r ∧ _
    rw [PlanTree.execute_node]
    show ∃ r, ((PlanTree.leaf (.select selector)).execute v config.matcher >>= _) = .ok r ∧ _
    rw [hexecute]
    exact ⟨_, rfl, rfl⟩

end Queries

/-- **Criteria are a selection of the label and a filter.**  In a graph that was built up from
nothing, a label and pairs that mean properties, in any order, select the same rows in the same
order as the label alone does with the pairs as its filter. -/
theorem EngineConfig.query_criteria {config : EngineConfig} (hlimit : 2 ≤ config.parser.maxDepth)
    {s : Store} (hs : s.Reachable) {label : String} (hlabel : label ≠ "")
    {pairs criteria : List (String × Json)} (hpairs : ∀ p ∈ pairs, MeansProperty p)
    (hnodup : (pairs.map Prod.fst).Nodup)
    (hcriteria : criteria.Perm (("label", .string label) :: pairs)) :
    ∃ r r', config.query s.view (.object [("select", .object criteria)]) = .ok r ∧
      config.query s.view
        (.object [("select", .string ("label:" ++ label)), ("filter", .object pairs)]) = .ok r' ∧
      r.rows = r'.rows ∧
      r.rows
        = ((s.nodesWithLabel label).filter fun n => pairs.all n.hasEqual).map Node.toValue := by
  -- both queries look at the nodes of the label, of which the criteria select some at once
  obtain ⟨properties, hread, hproperties⟩ := criteriaOf_perm hpairs hnodup hcriteria
  have hcriteriaRead : Selector.ofJson (.object criteria) = .ok (.criteria [label] properties) := by
    rw [Selector.ofJson, hread]
    rfl
  obtain ⟨r, hr, hrows⟩ := query_select (Nat.le_of_succ_le hlimit) hcriteriaRead
    (show (Selector.criteria [label] properties).select s.view = .ok (s.nodesWithLabel label, _)
      from rfl)
  obtain ⟨filters, hfilters, hhold⟩ := Filter.ofJson_pairs hpairs
  obtain ⟨r', hr', hrows'⟩ := query_select_filter hlimit (Selector.ofJson_label hlabel) hfilters
    (show (Selector.label label).select s.view = .ok (s.nodesWithLabel label, _) from rfl)
  have hselected : ((s.nodesWithLabel label).filter fun n => n.meets [label] properties)
      = (s.nodesWithLabel label).filter fun n => pairs.all n.hasEqual := by
    refine List.filter_congr fun n hn => ?_
    rw [n.meets_iff hproperties, (hs.mem_nodesWithLabel.mp hn).2, Bool.true_and]
  have hfiltered : r'.rows
      = ((s.nodesWithLabel label).filter fun n => pairs.all n.hasEqual).map Node.toValue := by
    rw [hrows', List.filter_map]
    exact congrArg _ (List.filter_congr fun n _ => hhold n)
  rw [hselected] at hrows
  exact ⟨r, r', hr, hr', hrows.trans hfiltered.symm, hrows⟩

end AnyEngine

/-! ### Divers -/

/-- Divers of the third rank, once as an integer and once not, one whose rank is null and one
without a rank. -/
def diverNodes : List Node :=
  let skills := Value.list [.string "rope"]
  [⟨"a", ["Diver"], .ofList [("rank", .int 3), ("skills", skills)]⟩,
    ⟨"b", ["Diver"], .ofList [("rank", .float ⟨0x4008000000000000⟩), ("skills", skills)]⟩,
    ⟨"c", ["Diver"], .ofList [("rank", .null), ("skills", skills)]⟩,
    ⟨"d", ["Diver"], .ofList [("skills", skills)]⟩]

def divers : Store := (Store.ofElements diverNodes []).toOption.getD .empty

/-- The third rank and the skill of rope work. -/
def thirdRank : List (String × Json) := [("rank", .ofNat 3), ("skills", .array [.string "rope"])]

theorem EngineConfig.query_criteria_divers :
    ∃ r r', ({} : EngineConfig).query divers.view
        (.object [("select", .object (thirdRank ++ [("label", .string "Diver")]))]) = .ok r ∧
      ({} : EngineConfig).query divers.view
        (.object [("select", .string "label:Diver"), ("filter", .object thirdRank)]) = .ok r' ∧
      r.rows = r'.rows ∧ r.rows = (diverNodes.take 2).map Node.toValue := by
  have hpairs : ∀ p ∈ thirdRank, MeansProperty p := by
    intro p hp
    simp only [thirdRank, List.mem_cons, List.not_mem_nil, or_false] at hp
    have hfree : ¬ IsReserved p.1 := by
      rcases hp with rfl | rfl <;> simp [← isOperatorName_iff, Filter.isOperatorName]
    rcases hp with rfl | rfl
    · exact ⟨by decide, hfree, by decide, nofun, nofun⟩
    · exact ⟨by decide, hfree, by decide, nofun, nofun⟩
  have hdivers : divers.Reachable :=
    Store.reachable_ofElements (show Store.ofElements diverNodes [] = .ok divers from rfl)
  have hlimit : 2 ≤ ({} : EngineConfig).parser.maxDepth := by decide
  have hlabel : "Diver" ≠ "" := by decide
  exact query_criteria hlimit hdivers hlabel hpairs (by decide) List.perm_append_comm

end PropertyGraph
