import Mathlib.Algebra.Order.BigOperators.Group.List
import PropertyGraph.Proofs.Query.Staging

/-!
# Rewriting plans

`PlanTree.optimize` puts each step in its place on optimized inputs.  The rules behind it say what
may change at the root of a tree (`PlanTree.applyRule?`), and `PlanTree.rewrite?` applies them as
long as one fits: to the inputs of a step first, then at the step, and to the inputs again after
each change there.

Rewriting comes to an end on every tree, and the optimized tree is what it ends with
(`rewrite?_eq_optimize`).  A sort that moves below a limit leaves the tree as large as it was, so
what goes down with each rule is not its size but its `weight`, where all that is below a sort
counts twice.

What holds between a tree and the one that a rule makes of it, and goes up from the inputs of a step
to the step, holds between a tree and the optimized tree (`Kept.optimize`).
-/

namespace PropertyGraph.PlanTree

/-! ### Rules -/

/-- The tree that a rule makes of a tree at its root. -/
def applyRule? : PlanTree → Option PlanTree
  | .node (.filter conditions) [.node (.traverse t) inputs] =>
    some (.node (.traverse (t.withConditions conditions)) inputs)
  | .node (.filter conditions) [.node (.filter inner) inputs] =>
    some (.node (.filter (inner ++ conditions)) inputs)
  | .node (.sort keys) [.node (.limit count) inputs] =>
    some (.node (.limit count) [.node (.sort keys) inputs])
  | _ => none

/-- The three rules. -/
inductive Rule : PlanTree → PlanTree → Prop where
  /-- The conditions of a filter go into the traversal below it. -/
  | push (conditions : List Filter) (t : Traversal) (inputs : List PlanTree) :
    Rule (.node (.filter conditions) [.node (.traverse t) inputs])
      (.node (.traverse (t.withConditions conditions)) inputs)
  /-- Two filters become one. -/
  | merge (conditions inner : List Filter) (inputs : List PlanTree) :
    Rule (.node (.filter conditions) [.node (.filter inner) inputs])
      (.node (.filter (inner ++ conditions)) inputs)
  /-- A sort moves below a limit. -/
  | swap (keys : List SortKey) (count : Nat) (inputs : List PlanTree) :
    Rule (.node (.sort keys) [.node (.limit count) inputs])
      (.node (.limit count) [.node (.sort keys) inputs])

theorem applyRule?_eq_some_iff {t t' : PlanTree} : t.applyRule? = some t' ↔ Rule t t' := by
  constructor
  · intro h
    unfold applyRule? at h
    split at h
    · exact Option.some.inj h ▸ .push _ _ _
    · exact Option.some.inj h ▸ .merge _ _ _
    · exact Option.some.inj h ▸ .swap _ _ _
    · cases h
  · rintro (_ | _ | _) <;> rfl

/-- No rule fits a step on its inputs: it is no filter on a traversal or a filter alone, and no sort
on a limit alone. -/
def Settled (step : PlanStep) (inputs : List PlanTree) : Prop :=
  ∀ input, inputs = [input] →
    (step.kind = .filter → input.step.kind ≠ .traverse ∧ input.step.kind ≠ .filter) ∧
      (step.kind = .sort → input.step.kind ≠ .limit)

/-- No rule fits anywhere in the tree. -/
def NormalForm (t : PlanTree) : Prop := t.Everywhere Settled

theorem settled_of_applyRule? {step : PlanStep} {inputs : List PlanTree}
    (h : (PlanTree.node step inputs).applyRule? = none) : Settled step inputs := by
  rintro ⟨lower, below⟩ rfl
  refine ⟨fun hstep => ⟨fun hlower => ?_, fun hlower => ?_⟩, fun hstep hlower => ?_⟩
  all_goals
    cases step <;> cases hstep
    cases lower <;> cases hlower
    cases h

/-- Where no rule fits, a step is in its place. -/
theorem place_of_applyRule? {step : PlanStep} {inputs : List PlanTree}
    (h : (PlanTree.node step inputs).applyRule? = none) :
    place step inputs = .node step inputs := by
  cases step with
  | sort keys => exact placeSort_eq fun count below heq => by rw [heq] at h; cases h
  | filter conditions =>
    rw [place]
    unfold placeFilter
    split
    · cases h
    · cases h
    · rfl
  | select selector => rfl
  | traverse t => rfl
  | aggregate columns => rfl
  | limit count => rfl

/-! ### What rules keep -/

/-- The relation holds across each rule, and it holds of steps if it does of their inputs. -/
structure Kept (R : PlanTree → PlanTree → Prop) : Prop where
  refl : ∀ t, R t t
  trans : ∀ {t u v}, R t u → R u v → R t v
  node : ∀ step {inputs inputs'}, List.Forall₂ R inputs inputs' →
    R (.node step inputs) (.node step inputs')
  rule : ∀ {t t'}, Rule t t' → R t t'

namespace Kept

variable {R : PlanTree → PlanTree → Prop}

/-- A sort gets to its place by the third rule, once for each limit that it meets. -/
theorem placeSort (h : Kept R) (keys : List SortKey) (inputs : List PlanTree) :
    R (.node (.sort keys) inputs) (PlanTree.placeSort keys inputs) := by
  induction inputs using placeSort.induct with
  | case1 count below ih =>
    rw [PlanTree.placeSort]
    exact h.trans (h.rule (.swap keys count below)) (h.node _ (.cons ih .nil))
  | case2 inputs hnone =>
    rw [placeSort_eq hnone]
    exact h.refl _

theorem place (h : Kept R) (step : PlanStep) (inputs : List PlanTree) :
    R (.node step inputs) (PlanTree.place step inputs) := by
  cases step with
  | sort keys => exact h.placeSort keys inputs
  | filter conditions =>
    show R _ (placeFilter conditions inputs)
    unfold placeFilter
    split
    · exact h.rule (.push _ _ _)
    · exact h.rule (.merge _ _ _)
    · exact h.refl _
  | select selector => exact h.refl _
  | traverse t => exact h.refl _
  | aggregate columns => exact h.refl _
  | limit count => exact h.refl _

theorem node_map (h : Kept R) (step : PlanStep) {inputs : List PlanTree}
    {f : PlanTree → PlanTree} (hf : ∀ t ∈ inputs, R t (f t)) :
    R (.node step inputs) (.node step (inputs.map f)) :=
  h.node step (List.forall₂_map_right_iff.mpr (List.forall₂_same.mpr hf))

/-- What each rule keeps, optimizing keeps. -/
theorem optimize (h : Kept R) (t : PlanTree) : R t t.optimize := by
  induction t using induction with
  | node step inputs ih =>
    rw [optimize_node]
    exact h.trans (h.node_map step ih) (h.place step (inputs.map PlanTree.optimize))

end Kept

/-! ### Optimizing again -/

theorem placeFilter_placeFilter (conditions inner : List Filter) (inputs : List PlanTree) :
    placeFilter conditions [placeFilter inner inputs]
      = placeFilter (inner ++ conditions) inputs := by
  rw [placeFilter.eq_def inner]
  split <;> simp [placeFilter]

/-- A rule makes no difference to the optimized tree. -/
theorem kept_optimize : Kept fun t t' => t'.optimize = t.optimize where
  refl _ := rfl
  trans h h' := h'.trans h
  node step inputs inputs' h := by
    have hmap : inputs.map optimize = inputs'.map optimize := by
      rw [← List.forall₂_eq_eq_eq, List.forall₂_map_left_iff, List.forall₂_map_right_iff]
      exact h.imp fun _ _ heq => heq.symm
    rw [optimize_node, optimize_node, hmap]
  rule h := by
    cases h with
    | push conditions t inputs =>
      simp only [optimize_node, List.map_cons, List.map_nil, place, placeFilter,
        Traversal.withConditions]
    | merge conditions inner inputs =>
      simp only [optimize_node, List.map_cons, List.map_nil, place, placeFilter_placeFilter]
    | swap keys count inputs =>
      simp only [optimize_node, List.map_cons, List.map_nil, place, placeSort]

/-! ### Coming to an end -/

/-- How often a step counts all that is below it. -/
def stepLoad : PlanStep → Nat
  | .sort _ => 2
  | _ => 1

mutual

/-- The size of a tree, in which all that is below a sort counts twice. -/
def weight : PlanTree → Nat
  | .node step inputs => 1 + stepLoad step * weightOfAll inputs

def weightOfAll : List PlanTree → Nat
  | [] => 0
  | t :: rest => weight t + weightOfAll rest

end

theorem weightOfAll_eq_sum (ts : List PlanTree) : weightOfAll ts = (ts.map weight).sum := by
  induction ts with
  | nil => rfl
  | cons t rest ih => rw [weightOfAll, ih, List.map_cons, List.sum_cons]

theorem Rule.weight_lt {t t' : PlanTree} (h : Rule t t') : t'.weight < t.weight := by
  cases h with
  | push conditions t inputs => simp only [weight, weightOfAll, stepLoad]; omega
  | merge conditions inner inputs => simp only [weight, weightOfAll, stepLoad]; omega
  | swap keys count inputs => simp only [weight, weightOfAll, stepLoad]; omega

theorem kept_weight : Kept fun t t' => t'.weight ≤ t.weight where
  refl _ := Nat.le_refl _
  trans h h' := Nat.le_trans h' h
  node step inputs inputs' h := by
    have hsum : (inputs'.map weight).sum ≤ (inputs.map weight).sum := by
      refine List.Forall₂.sum_le_sum ?_
      rw [List.forall₂_map_left_iff, List.forall₂_map_right_iff]
      exact h.flip
    rw [weight, weight, weightOfAll_eq_sum, weightOfAll_eq_sum]
    exact Nat.add_le_add_left (Nat.mul_le_mul_left _ hsum) 1
  rule h := Nat.le_of_lt h.weight_lt

/-- The inputs of a step weigh less than the tree. -/
theorem weight_lt_node {step : PlanStep} {inputs : List PlanTree} {t : PlanTree} (h : t ∈ inputs) :
    t.weight < (PlanTree.node step inputs).weight := by
  have hsum : t.weight ≤ weightOfAll inputs := by
    rw [weightOfAll_eq_sum]
    exact List.single_le_sum (fun _ _ => Nat.zero_le _) _ (List.mem_map_of_mem h)
  have hload : 1 ≤ stepLoad step := by
    unfold stepLoad
    split <;> omega
  have hmul := Nat.le_mul_of_pos_left (weightOfAll inputs) hload
  rw [weight]
  omega

/-- Rewrites the inputs of a tree and then applies rules at its root until none fits, rewriting the
inputs again after each.  There is no result if that takes more calls within each other than are
allowed. -/
def rewrite? : Nat → PlanTree → Option PlanTree
  | 0, _ => none
  | calls + 1, .node step inputs => do
    let rewritten ← inputs.mapM (rewrite? calls)
    match applyRule? (.node step rewritten) with
    | none => some (.node step rewritten)
    | some t => rewrite? calls t

/-- All elements of a list have results if the list has one, which are its elements. -/
theorem mapM_eq_some_iff {α β : Type} {f : α → Option β} {xs : List α} {ys : List β} :
    xs.mapM f = some ys ↔ List.Forall₂ (fun x y => f x = some y) xs ys := by
  induction xs generalizing ys with
  | nil => cases ys <;> simp
  | cons x rest ih =>
    rw [List.mapM_cons, List.forall₂_cons_left_iff]
    simp only [Option.bind_eq_bind, Option.bind_eq_some_iff, Option.pure_def, Option.some.injEq, ih]
    constructor
    · rintro ⟨y, hy, ys, hys, rfl⟩
      exact ⟨y, ys, hy, hys, rfl⟩
    · rintro ⟨y, ys, hy, hys, rfl⟩
      exact ⟨y, hy, ys, hys, rfl⟩

theorem rewrite?_node {calls : Nat} {step : PlanStep} {inputs rewritten : List PlanTree}
    (h : inputs.mapM (rewrite? calls) = some rewritten) :
    (PlanTree.node step inputs).rewrite? (calls + 1)
      = match applyRule? (.node step rewritten) with
        | none => some (.node step rewritten)
        | some t => t.rewrite? calls := by
  rw [rewrite?, h]
  rfl

/-- Rewriting a tree comes to an end, within as many calls as the tree weighs, and the optimized
tree is what it ends with. -/
theorem rewrite?_eq_optimize {calls : Nat} {t : PlanTree} (h : t.weight ≤ calls) :
    t.rewrite? calls = some t.optimize := by
  induction calls generalizing t with
  | zero =>
    cases t
    rw [weight] at h
    omega
  | succ calls ih =>
    obtain ⟨step, inputs⟩ := t
    have hrewritten : inputs.mapM (rewrite? calls) = some (inputs.map optimize) := by
      refine mapM_eq_some_iff.mpr (List.forall₂_map_right_iff.mpr (List.forall₂_same.mpr ?_))
      intro t ht
      have hlt := @weight_lt_node step inputs t ht
      exact ih (by omega)
    rw [rewrite?_node hrewritten]
    cases hrule : applyRule? (.node step (inputs.map optimize)) with
    | none => rw [optimize_node, place_of_applyRule? hrule]
    | some t =>
      -- the rule makes the tree lighter and leaves what it is optimized to
      have hlt : t.weight < (PlanTree.node step inputs).weight :=
        Nat.lt_of_lt_of_le (applyRule?_eq_some_iff.mp hrule).weight_lt
          (kept_weight.node_map step fun t _ => kept_weight.optimize t)
      have hsame : t.optimize = (PlanTree.node step inputs).optimize :=
        (kept_optimize.rule (applyRule?_eq_some_iff.mp hrule)).trans
          (kept_optimize.node_map step fun t _ => kept_optimize.optimize t)
      dsimp only
      rw [ih (by omega), hsame]

/-- What rewriting ends with is in normal form. -/
theorem normalForm_of_rewrite? {calls : Nat} {t t' : PlanTree} (h : t.rewrite? calls = some t') :
    t'.NormalForm := by
  induction calls generalizing t t' with
  | zero => cases h
  | succ calls ih =>
    obtain ⟨step, inputs⟩ := t
    obtain ⟨rewritten, hrewritten, -⟩ := Option.bind_eq_some_iff.mp h
    rw [rewrite?_node hrewritten] at h
    cases hrule : applyRule? (.node step rewritten) with
    | none =>
      rw [hrule] at h
      obtain rfl := Option.some.inj h
      refine .node (settled_of_applyRule? hrule) fun t' ht' => ?_
      -- each input is what rewriting one of the inputs ended with
      obtain ⟨i, hi, rfl⟩ := List.mem_iff_getElem.mp ht'
      have hforall := mapM_eq_some_iff.mp hrewritten
      exact ih (hforall.get (hforall.length_eq ▸ hi) hi)
    | some t =>
      rw [hrule] at h
      exact ih h

end PropertyGraph.PlanTree

namespace PropertyGraph

/-! ### The conditions along a chain -/

/-- What a step asks of nodes: a filter, or a traversal of the nodes that it reaches. -/
def PlanStep.conditions : PlanStep → List Filter
  | .traverse t => t.filter
  | .filter conditions => conditions
  | _ => []

namespace PlanTree

/-- The conditions of a plan from the leaf to the root, if the plan is linear. -/
def chainConditions? (t : PlanTree) : Option (List Filter) :=
  t.chain.toOption.map fun steps => steps.flatMap PlanStep.conditions

/-- The conditions of what is below a step with the given inputs. -/
def conditionsBelow? : List PlanTree → Option (List Filter)
  | [] => some []
  | [input] => input.chainConditions?
  | _ => none

theorem chainConditions?_node (step : PlanStep) (inputs : List PlanTree) :
    (PlanTree.node step inputs).chainConditions?
      = (conditionsBelow? inputs).map fun below => below ++ step.conditions := by
  unfold chainConditions? conditionsBelow?
  match inputs with
  | [] => simp [chain, Except.toOption]
  | [input] =>
    rw [chain]
    cases hbelow : input.chain with
    | error e => simp [chainConditions?, hbelow, Except.toOption, bind, Except.bind]
    | ok below =>
      simp [chainConditions?, hbelow, Except.toOption, bind, Except.bind, pure, Except.pure]
  | _ :: _ :: _ => rfl

theorem kept_chainConditions? : Kept fun t t' => t'.chainConditions? = t.chainConditions? where
  refl _ := rfl
  trans h h' := h'.trans h
  node step inputs inputs' h := by
    have hbelow : conditionsBelow? inputs' = conditionsBelow? inputs := by
      match h with
      | .nil => rfl
      | .cons hinput .nil => exact hinput
      | .cons _ (.cons _ _) => rfl
    rw [chainConditions?_node, chainConditions?_node, hbelow]
  rule h := by
    cases h with
    | push conditions t inputs =>
      simp [chainConditions?_node, conditionsBelow?, PlanStep.conditions, Traversal.withConditions,
        Function.comp_def]
    | merge conditions inner inputs =>
      simp [chainConditions?_node, conditionsBelow?, PlanStep.conditions, Function.comp_def]
    | swap keys count inputs => simp [chainConditions?_node, conditionsBelow?, PlanStep.conditions]

end PlanTree

/-! ### Rewriting -/

/-- **Rewriting reaches a normal form.**  Rewriting a tree comes to an end, however many calls
within each other are allowed beyond its weight, and the end is the optimized tree.  There no filter
has a traversal or a filter as its only input and no sort a limit, anywhere in the tree, and
optimizing it again changes nothing.  The conditions of a linear plan, read from the leaf to the
root, are those of the optimized plan. -/
theorem optimize_normalForm (t : PlanTree) :
    (∀ calls, t.weight ≤ calls → t.rewrite? calls = some t.optimize) ∧
      t.optimize.NormalForm ∧
      t.optimize.optimize = t.optimize ∧
      (t.IsLinear → ∃ steps steps', t.chain = .ok steps ∧ t.optimize.chain = .ok steps' ∧
        steps'.flatMap PlanStep.conditions = steps.flatMap PlanStep.conditions) := by
  refine ⟨fun calls h => PlanTree.rewrite?_eq_optimize h,
    PlanTree.normalForm_of_rewrite? (PlanTree.rewrite?_eq_optimize (Nat.le_refl t.weight)),
    PlanTree.kept_optimize.optimize t, fun hlinear => ?_⟩
  have hsame := PlanTree.kept_chainConditions?.optimize t
  have hchain := PlanTree.chain_eq hlinear
  unfold PlanTree.chainConditions? at hsame
  rw [hchain] at hsame
  cases hoptimized : t.optimize.chain with
  | error e =>
    rw [hoptimized] at hsame
    cases hsame
  | ok steps =>
    rw [hoptimized] at hsame
    exact ⟨_, steps, hchain, rfl, Option.some.inj hsame⟩

/-- Three of the acquaintances, by name. -/
def firstAcquaintances : PlanTree :=
  .wrap (.sort [⟨"name", .ascending⟩]) (.wrap (.limit 3) acquaintances)

theorem optimize_normalForm_firstAcquaintances :
    firstAcquaintances.rewrite? 11 = some firstAcquaintances.optimize ∧
      ∃ steps steps', firstAcquaintances.chain = .ok steps ∧
        firstAcquaintances.optimize.chain = .ok steps' ∧
        steps'.flatMap PlanStep.conditions = steps.flatMap PlanStep.conditions := by
  have hlinear : firstAcquaintances.IsLinear := (PlanTree.IsLinear.leaf _).wrap.wrap.wrap.wrap.wrap
  obtain ⟨hend, -, -, hconditions⟩ := optimize_normalForm firstAcquaintances
  exact ⟨hend 11 (by decide), hconditions hlinear⟩

end PropertyGraph
