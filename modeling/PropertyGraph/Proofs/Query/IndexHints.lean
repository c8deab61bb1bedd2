import PropertyGraph.Proofs.Collection.SortedMap
import PropertyGraph.Proofs.Query.Rewriting

/-!
# Index hints of optimized plans

The indexes that would help a plan are collected from all its steps, in order and each once, so they
depend only on which hints there are (`sortedUnique_eq_of_perm`).  Each rule of optimization moves
conditions from step to step and drops none, so the hints of a tree stay the same up to their order
(`PlanTree.kept_indexHints`), and an optimized plan asks for the indexes that the plan asks for
(`optimize_requiredIndexes`).
-/

namespace PropertyGraph

/-! ### Hints in order -/

theorem IndexType.rank_injective : Function.Injective IndexType.rank := by
  intro a b h
  cases a <;> cases b <;> first | rfl | cases h

namespace IndexHint

instance : Std.LawfulEqOrd IndexHint where
  eq_of_compare {x y} h := by
    obtain ⟨hname, hrank⟩ := compareLex_eq_eq.mp h
    obtain ⟨name, indexType⟩ := x
    obtain rfl : name = y.name := Std.LawfulEqOrd.eq_of_compare hname
    obtain rfl : indexType = y.indexType :=
      IndexType.rank_injective (Std.LawfulEqOrd.eq_of_compare hrank)
    rfl

/-- Hints in another order are the same when each is kept once, in order. -/
theorem sortedUnique_eq_of_perm {hints hints' : List IndexHint} (h : hints.Perm hints') :
    sortedUnique hints = sortedUnique hints' := by
  refine SortedMap.keys_eq_of_isSome_eq fun hint => ?_
  rw [SortedMap.find?_ofList_map hints fun _ => (), SortedMap.find?_ofList_map hints' fun _ => ()]
  simp only [h.mem_iff]

end IndexHint

theorem Filter.indexHints_append (filters filters' : List Filter) :
    Filter.indexHints (filters ++ filters')
      = Filter.indexHints filters ++ Filter.indexHints filters' := by
  induction filters with
  | nil => rfl
  | cons f rest ih =>
    unfold indexHints at ih ⊢
    rw [List.cons_append, conditionsOfAll, conditionsOfAll, List.map_append, List.map_append, ih,
      List.append_assoc]

/-! ### The hints of a tree -/

namespace PlanTree

/-- The hints of all steps of a plan. -/
def indexHints (t : PlanTree) : List IndexHint := t.nodes.flatMap fun n => n.1.step.indexHints

theorem preorderOfAll_eq_flatMap (level : Nat) (ts : List PlanTree) :
    preorderOfAll level ts = ts.flatMap (preorder level) := by
  induction ts with
  | nil => rfl
  | cons t rest ih => rw [preorderOfAll, ih, List.flatMap_cons]

theorem flatMap_preorder (t : PlanTree) :
    ∀ level, (t.preorder level).flatMap (fun n => n.1.step.indexHints) = t.indexHints := by
  induction t using induction with
  | node step inputs ih =>
    -- the level makes no difference to the hints of the inputs
    have hinputs : ∀ level, (preorderOfAll level inputs).flatMap (fun n => n.1.step.indexHints)
        = inputs.flatMap indexHints := by
      intro level
      rw [preorderOfAll_eq_flatMap, List.flatMap_assoc]
      exact List.flatMap_congr fun t ht => ih t ht level
    intro level
    rw [indexHints, nodes, preorder, preorder, List.flatMap_cons, List.flatMap_cons, hinputs,
      hinputs]

theorem indexHints_node (step : PlanStep) (inputs : List PlanTree) :
    (PlanTree.node step inputs).indexHints = step.indexHints ++ inputs.flatMap indexHints := by
  rw [indexHints, nodes, preorder, List.flatMap_cons, preorderOfAll_eq_flatMap, List.flatMap_assoc]
  exact congrArg _ (List.flatMap_congr fun t _ => flatMap_preorder t 1)

theorem kept_indexHints : Kept fun t t' => t'.indexHints.Perm t.indexHints where
  refl _ := .refl _
  trans h h' := h'.trans h
  node step inputs inputs' h := by
    have hinputs : (inputs'.flatMap indexHints).Perm (inputs.flatMap indexHints) := by
      induction h with
      | nil => exact .refl _
      | cons hfirst _ ih => exact hfirst.append ih
    rw [indexHints_node, indexHints_node]
    exact hinputs.append_left _
  rule h := by
    cases h with
    | push conditions t inputs =>
      simp only [indexHints_node, List.flatMap_singleton, PlanStep.indexHints,
        Traversal.withConditions, Filter.indexHints_append]
      simpa only [List.append_assoc] using List.perm_append_comm_assoc
        (t.edgeType.toList.map (IndexHint.of .edgeType) ++ Filter.indexHints t.filter) _ _
    | merge conditions inner inputs =>
      simp only [indexHints_node, List.flatMap_singleton, PlanStep.indexHints,
        Filter.indexHints_append]
      simpa only [List.append_assoc] using List.perm_append_comm_assoc _ _ _
    | swap keys count inputs =>
      simp only [indexHints_node, List.flatMap_singleton, PlanStep.indexHints, List.nil_append]
      exact .refl _

end PlanTree

/-- **Optimizing keeps the index hints.**  Whatever the plan, the optimized tree would be helped by
the indexes that would help the tree, and these are the indexes that the optimized plan tells. -/
theorem optimize_requiredIndexes (p : QueryPlan) :
    p.root.optimize.requiredIndexes = p.root.requiredIndexes ∧
      p.optimize.indexes = p.root.requiredIndexes := by
  have hkept : p.root.optimize.requiredIndexes = p.root.requiredIndexes :=
    IndexHint.sortedUnique_eq_of_perm (PlanTree.kept_indexHints.optimize p.root)
  exact ⟨hkept, hkept⟩

end PropertyGraph
