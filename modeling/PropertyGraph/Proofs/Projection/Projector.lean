import PropertyGraph.Projection.Projector
import PropertyGraph.Proofs.Projection.Accessors

/-!
# Projectors without their accessors

A projector keeps the accessors of the paths that it has met.  Each of them is the accessor of the
path under which it is kept (`Projector.Faithful`), from a new projector on and after every
operation (`Projector.Reachable.faithful`).  So an operation answers as if there were no accessors
to keep (`Projector.Answers`): `answers_project` and `answers_projectWithWildcards` give the answers
in terms of the specification and the rows alone.
-/

namespace PropertyGraph

/-! ### Answers from a specification and rows -/

/-- The projection of rows to paths. -/
def ProjectionSpec.projection (spec : ProjectionSpec) (paths : List String) (rows : List Value) :
    Projection :=
  let accessors := paths.map fun path => (Accessor.compile path, spec.outputName path)
  ⟨rows.map fun row => .ofProperties (spec.row accessors row),
    (paths.map spec.outputName ++ spec.computed.map (·.name)).eraseDups⟩

/-- What the accessors of paths read in a row, and null where one reads nothing. -/
def Value.readings (row : Value) (paths : List String) : PropertyMap :=
  .ofList (paths.map fun path => (path, ((Accessor.compile path).get? row).getD .null))

theorem Value.find?_readings (row : Value) (paths : List String) (path : String) :
    (row.readings paths).find? path
      = if path ∈ paths then some (((Accessor.compile path).get? row).getD .null) else none :=
  SortedMap.find?_ofList_map paths (fun path => ((Accessor.compile path).get? row).getD .null) path

theorem Value.keys_readings (row : Value) {paths : List String} (h : paths.Nodup) :
    (row.readings paths).keys.Perm paths := by
  rw [List.perm_ext_iff_of_nodup (row.readings paths).nodup_keys h]
  intro path
  rw [SortedMap.mem_keys_iff, find?_readings]
  split_ifs with hpath <;> simp [hpath]

theorem eraseDups_of_nodup {names : List String} (h : names.Nodup) : names.eraseDups = names := by
  induction names with
  | nil => rfl
  | cons name rest ih =>
    obtain ⟨hname, hrest⟩ := List.nodup_cons.mp h
    have hkept : rest.filter (fun other => !other == name) = rest := by
      refine List.filter_eq_self.mpr fun other hother => ?_
      have hne : other ≠ name := fun heq => hname (heq ▸ hother)
      simpa using hne
    rw [List.eraseDups_cons, hkept, ih hrest]

/-- Without aliases, computed fields and conversions rows are projected to what is read in them. -/
theorem ProjectionSpec.projection_plain (fields : Option (List String)) {paths : List String}
    (h : paths.Nodup) (rows : List Value) :
    ({ fields } : ProjectionSpec).projection paths rows
      = ⟨rows.map fun row => .ofProperties (row.readings paths), paths⟩ := by
  have hrow (row : Value) :
      ({ fields } : ProjectionSpec).row (paths.map fun path => (Accessor.compile path, path)) row
        = row.readings paths := by
    show taken _ row = _
    rw [taken, Value.readings, SortedMap.ofList, List.foldl_map, List.foldl_map]
  have hnames : (paths.map fun path => path) ++ [] = paths := by simp
  show (⟨rows.map fun row => .ofProperties (({ fields } : ProjectionSpec).row _ row),
    ((paths.map fun path => path) ++ []).eraseDups⟩ : Projection) = _
  rw [hnames, eraseDups_of_nodup h]
  exact congrArg (Projection.mk · paths) (List.map_congr_left fun row _ => congrArg _ (hrow row))

namespace Projector

/-- The paths that a path stands for: itself, or with a wildcard those of the keys in the first
row. -/
def expansion (rows : List Value) (path : String) : List String :=
  match wildcard? path with
  | none => [path]
  | some parent =>
    let target := rows.head?.bind (Accessor.compile parent).get?
    ((target.bind Value.map?).getD []).map fun e => Value.pathTo parent e.1

/-! ### Kept accessors -/

variable {α β : Type}

/-- Every accessor is kept under its path. -/
def Faithful (p : Projector) : Prop :=
  ∀ path a, p.accessors.find? path = some a → a = Accessor.compile path

theorem faithful_of_empty {p : Projector} (h : p.accessors = .empty) : p.Faithful := by
  intro path a ha
  rw [h, SortedMap.find?_empty] at ha
  cases ha

/-- On any projector with faithful accessors an operation answers the same, and it leaves the
accessors faithful. -/
def Answers (m : StateM Projector α) (a : α) : Prop :=
  ∀ p : Projector, p.Faithful → ∃ p' : Projector, m p = (a, p') ∧ p'.Faithful

theorem Answers.pure (a : α) : Answers (pure a) a := fun p hp => ⟨p, rfl, hp⟩

theorem Answers.bind {m : StateM Projector α} {f : α → StateM Projector β} {a : α} {b : β}
    (hm : Answers m a) (hf : Answers (f a) b) : Answers (m >>= f) b := by
  intro p hp
  obtain ⟨p₁, hfirst, hp₁⟩ := hm p hp
  obtain ⟨p₂, hsecond, hp₂⟩ := hf p₁ hp₁
  refine ⟨p₂, ?_, hp₂⟩
  show (f (m p).1) (m p).2 = (b, p₂)
  rw [hfirst]
  exact hsecond

theorem Answers.mapM {f : α → StateM Projector β} {g : α → β} (h : ∀ x, Answers (f x) (g x))
    (xs : List α) : Answers (xs.mapM f) (xs.map g) := by
  induction xs with
  | nil => exact .pure []
  | cons x rest ih =>
    rw [List.mapM_cons]
    exact (h x).bind (ih.bind (.pure _))

theorem answers_accessor (path : String) : Answers (accessor path) (Accessor.compile path) := by
  intro p hp
  show ∃ p', (if p.config.cacheAccessors then _ else _ : StateM Projector Accessor) p = _ ∧ _
  split_ifs
  · cases hfound : p.accessors.find? path with
    | some a =>
      obtain rfl := hp path a hfound
      exact ⟨p, rfl, hp⟩
    | none =>
      refine ⟨_, rfl, fun path' a ha => ?_⟩
      rw [SortedMap.find?_insert] at ha
      split_ifs at ha with hpath
      · rw [hpath, ← Option.some.inj ha]
      · exact hp path' a ha
  · exact ⟨p, rfl, hp⟩

/-! ### Operations -/

theorem answers_projectPaths (paths : List String) (rows : List Value) (spec : ProjectionSpec) :
    Answers (projectPaths paths rows spec) (spec.projection paths rows) := by
  have hpath (path : String) : Answers (do return (← accessor path, spec.outputName path))
      (Accessor.compile path, spec.outputName path) := (answers_accessor path).bind (.pure _)
  have haccessors := Answers.mapM hpath paths
  refine haccessors.bind ?_
  have hnames : (paths.map fun path => (Accessor.compile path, spec.outputName path)).map (·.2)
      = paths.map spec.outputName := List.map_map
  rw [hnames]
  exact .pure _

theorem answers_targetOf (path : String) (row : Value) :
    Answers (targetOf path row) ((Accessor.compile path).get? row) := by
  unfold targetOf
  split_ifs with hempty
  · rw [String.isEmpty_iff.mp hempty, Accessor.get?_compile_empty]
    exact .pure _
  · exact (answers_accessor path).bind (.pure _)

theorem answers_expanded (rows : List Value) (path : String) :
    Answers (expanded rows path) (expansion rows path) := by
  unfold expanded expansion
  cases wildcard? path with
  | none => exact .pure _
  | some parent =>
    cases rows with
    | nil => exact .pure _
    | cons row rest =>
      refine (answers_targetOf parent row).bind ?_
      dsimp only
      rw [List.map_map]
      exact .pure _

theorem answers_project (rows : List Value) (spec : ProjectionSpec) :
    Answers (project rows spec)
      (match spec.fields with
      | some paths => .ok (spec.projection paths rows)
      | none => .error (.invalidSpec .noFields)) := by
  unfold project
  cases spec.fields with
  | some paths => exact (answers_projectPaths paths rows spec).bind (.pure _)
  | none => exact .pure _

theorem answers_projectWithWildcards (rows : List Value) (spec : ProjectionSpec) :
    Answers (projectWithWildcards rows spec)
      (match spec.fields with
      | some paths => .ok (spec.projection (paths.flatMap (expansion rows)) rows)
      | none => .error (.invalidSpec .noFields)) := by
  unfold projectWithWildcards
  cases spec.fields with
  | some paths =>
    refine (Answers.mapM (answers_expanded rows) paths).bind ?_
    exact (answers_projectPaths _ rows spec).bind (.pure _)
  | none => exact .pure _

/-! ### Projectors in use -/

/-- The projectors that come of a new one through its operations. -/
inductive Reachable : Projector → Prop where
  | new (config : ProjectorConfig) : Reachable { config }
  | project {p : Projector} (rows : List Value) (spec : ProjectionSpec) :
    Reachable p → Reachable (Projector.project rows spec p).2
  | projectWithWildcards {p : Projector} (rows : List Value) (spec : ProjectionSpec) :
    Reachable p → Reachable (Projector.projectWithWildcards rows spec p).2
  | cleared {p : Projector} : Reachable p → Reachable p.cleared

theorem Reachable.faithful {p : Projector} (h : p.Reachable) : p.Faithful := by
  induction h with
  | new config => exact faithful_of_empty rfl
  | @project p rows spec _ ih =>
    obtain ⟨p', hrun, hp'⟩ := answers_project rows spec p ih
    rw [hrun]
    exact hp'
  | @projectWithWildcards p rows spec _ ih =>
    obtain ⟨p', hrun, hp'⟩ := answers_projectWithWildcards rows spec p ih
    rw [hrun]
    exact hp'
  | cleared _ _ => exact faithful_of_empty rfl

end Projector

end PropertyGraph
