import PropertyGraph.Query.Execution

/-!
# Running plans

`execute_node` says what running a plan is in terms of running its input, and `run_agrees` that a
step does not see how many steps ran before it.  Results that agree but for that number are
`Agrees`.
-/

namespace PropertyGraph

variable {ρ : Type} [RegexEngine ρ]

variable {v : GraphView} {config : MatcherConfig}

/-! ### Results but for the number of steps -/

/-- The result without the number of steps that made it. -/
def QueryResult.withoutSteps (r : QueryResult) : QueryResult :=
  { r with stats := { r.stats with steps := 0 } }

/-- The same error, or the same rows, nodes scanned and edges traversed. -/
def Agrees (x y : Except Error QueryResult) : Prop :=
  x.map QueryResult.withoutSteps = y.map QueryResult.withoutSteps

namespace Agrees

variable {x y z : Except Error QueryResult}

theorem refl (x : Except Error QueryResult) : Agrees x x := rfl

theorem trans (hxy : Agrees x y) (hyz : Agrees y z) : Agrees x z := Eq.trans hxy hyz

theorem of_eq (h : x = y) : Agrees x y := h ▸ refl x

theorem of_ok {r r' : QueryResult} (hrows : r.rows = r'.rows)
    (hscanned : r.stats.nodesScanned = r'.stats.nodesScanned)
    (htraversed : r.stats.edgesTraversed = r'.stats.edgesTraversed) : Agrees (.ok r) (.ok r') := by
  obtain ⟨rows, ⟨steps, scanned, traversed⟩⟩ := r
  obtain ⟨rows', ⟨steps', scanned', traversed'⟩⟩ := r'
  dsimp only at hrows hscanned htraversed
  rw [hrows, hscanned, htraversed]
  rfl

theorem cases (h : Agrees x y) :
    (∃ e, x = .error e ∧ y = .error e) ∨
      ∃ r r', x = .ok r ∧ y = .ok r' ∧ r.withoutSteps = r'.withoutSteps := by
  unfold Agrees at h
  cases x with
  | error e =>
    cases y with
    | error e' =>
      obtain rfl : e = e' := Except.error.inj h
      exact Or.inl ⟨e, rfl, rfl⟩
    | ok r' => cases h
  | ok r =>
    cases y with
    | error e' => cases h
    | ok r' => exact Or.inr ⟨r, r', rfl, rfl, Except.ok.inj h⟩

/-- Steps that agree on agreeing results make agreeing results. -/
theorem bind {f g : QueryResult → Except Error QueryResult} (h : Agrees x y)
    (hfg : ∀ r r', r.withoutSteps = r'.withoutSteps → Agrees (f r) (g r')) :
    Agrees (x >>= f) (y >>= g) := by
  rcases h.cases with ⟨e, rfl, rfl⟩ | ⟨r, r', rfl, rfl, heq⟩
  · exact refl _
  · exact hfg r r' heq

theorem bind_left {f g : QueryResult → Except Error QueryResult} (x : Except Error QueryResult)
    (hfg : ∀ r, Agrees (f r) (g r)) : Agrees (x >>= f) (x >>= g) := by
  cases x with
  | error e => exact refl _
  | ok r => exact hfg r

end Agrees

/-! ### Steps -/

/-- A step does not see how many steps ran before it. -/
theorem PlanStep.run_agrees (step : PlanStep) {r r' : QueryResult}
    (h : r.withoutSteps = r'.withoutSteps) : Agrees (step.run v config r) (step.run v config r') := by
  obtain ⟨rows, ⟨steps, scanned, traversed⟩⟩ := r
  obtain ⟨rows', ⟨steps', scanned', traversed'⟩⟩ := r'
  simp only [QueryResult.withoutSteps, QueryResult.mk.injEq, QueryStats.mk.injEq, true_and] at h
  obtain ⟨rfl, rfl, rfl⟩ := h
  -- the results differ in `steps` alone, which each kind of step counts up without a look at it
  unfold PlanStep.run
  cases step with
  | select selector =>
    dsimp only
    cases selector.select v with
    | error e => rfl
    | ok found => rfl
  | traverse t =>
    dsimp only
    cases t.fromRows v config.maxResults rows with
    | error e => rfl
    | ok p => rfl
  | filter conditions => rfl
  | aggregate columns => rfl
  | sort keys => rfl
  | limit count => rfl

/-! ### Trees -/

namespace PlanTree

/-- The result that a step of a kind is run on, where it has these inputs. -/
def inputResult (v : GraphView) (config : MatcherConfig) (kind : StepKind) :
    List PlanTree → Except Error QueryResult
  | [] => .ok {}
  | [input] => input.execute v config
  | inputs => .error (.invalidPlan (.branching kind inputs.length))

/-- Running a plan is running its last step on the result of its input. -/
theorem execute_node (step : PlanStep) (inputs : List PlanTree) :
    (PlanTree.node step inputs).execute v config
      = inputResult v config step.kind inputs >>= fun r => step.run v config r := by
  match inputs with
  | [] => exact bind_pure (PlanStep.run v config {} step)
  | [input] =>
    -- the chain of the plan is that of its input and the step at its end
    show _ = input.execute v config >>= fun r => step.run v config r
    unfold execute
    rw [chain]
    cases input.chain with
    | error e => rfl
    | ok below =>
      show (below ++ [step]).foldlM (PlanStep.run v config) {} = _
      rw [List.foldlM_append]
      refine bind_congr fun r => ?_
      exact bind_pure (PlanStep.run v config r step)
  | a :: b :: rest => rfl

/-- Plans with the same last step agree if the results that it is run on do. -/
theorem execute_agrees (step : PlanStep) {inputs inputs' : List PlanTree}
    (h : Agrees (inputResult v config step.kind inputs) (inputResult v config step.kind inputs')) :
    Agrees ((PlanTree.node step inputs).execute v config)
      ((PlanTree.node step inputs').execute v config) := by
  rw [execute_node, execute_node]
  exact h.bind fun r r' heq => step.run_agrees heq

/-- Plans whose inputs agree one by one have agreeing results to run a step on. -/
theorem inputResult_agrees (kind : StepKind) {f : PlanTree → PlanTree} {inputs : List PlanTree}
    (h : ∀ t ∈ inputs, Agrees ((f t).execute v config) (t.execute v config)) :
    Agrees (inputResult v config kind (inputs.map f)) (inputResult v config kind inputs) := by
  match inputs with
  | [] => exact Agrees.refl _
  | [input] => exact h input List.mem_cons_self
  | a :: b :: rest =>
    refine Agrees.of_eq ?_
    simp only [List.map_cons, inputResult, List.length_cons, List.length_map]

end PlanTree

end PropertyGraph
