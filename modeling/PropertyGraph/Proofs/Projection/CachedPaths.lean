import Mathlib.Data.List.DropRight
import PropertyGraph.Proofs.Projection.Projector

/-!
# The accessors that a projector keeps

A `Projector.Call` is one call on a projector.  It needs the accessors of some paths
(`Call.paths`), which are known from the call alone, and if the projector keeps accessors, it keeps
these (`Keeps`).  `runs_as_without_cache` puts this together with the answers of the operations: no
answer in a run of calls depends on what is kept, and kept are the paths needed since the accessors
were last forgotten.
-/

namespace PropertyGraph.Projector

variable {α β : Type}

theorem mem_cachedPaths_iff {p : Projector} {path : String} :
    path ∈ p.cachedPaths ↔ (p.accessors.find? path).isSome := SortedMap.mem_keys_iff

theorem sorted_cachedPaths (p : Projector) :
    p.cachedPaths.Pairwise fun a b => compare a b = .lt :=
  List.pairwise_map.mpr p.accessors.sorted

/-! ### Paths kept by an operation -/

/-- On any projector with faithful accessors an operation leaves the configuration as it is, and if
accessors are kept, it adds those of some paths. -/
def Keeps (m : StateM Projector α) (paths : List String) : Prop :=
  ∀ p : Projector, p.Faithful → (m p).2.config = p.config ∧
    ∀ path, path ∈ (m p).2.cachedPaths ↔
      path ∈ p.cachedPaths ∨ p.config.cacheAccessors = true ∧ path ∈ paths

theorem Keeps.pure (a : α) : Keeps (pure a) [] := by
  intro p _
  refine ⟨rfl, fun path => ?_⟩
  show path ∈ p.cachedPaths ↔ _
  simp

/-- What comes second is known from the answer of the first operation. -/
theorem Keeps.bind {m : StateM Projector α} {f : α → StateM Projector β} {a : α}
    {paths paths' : List String} (hm : Keeps m paths) (ha : Answers m a)
    (hf : Keeps (f a) paths') : Keeps (m >>= f) (paths ++ paths') := by
  intro p hp
  obtain ⟨hconfig, hpaths⟩ := hm p hp
  obtain ⟨p₁, hrun, hp₁⟩ := ha p hp
  rw [hrun] at hconfig hpaths
  obtain ⟨hconfig', hpaths'⟩ := hf p₁ hp₁
  have hboth : (m >>= f) p = f a p₁ := by
    show f (m p).1 (m p).2 = _
    rw [hrun]
  rw [hboth]
  refine ⟨hconfig'.trans hconfig, fun path => ?_⟩
  rw [hpaths', hpaths, hconfig, List.mem_append, or_assoc, and_or_left]

theorem Keeps.mapM {f : α → StateM Projector β} {g : α → β} {paths : α → List String}
    (h : ∀ x, Keeps (f x) (paths x)) (ha : ∀ x, Answers (f x) (g x)) (xs : List α) :
    Keeps (xs.mapM f) (xs.flatMap paths) := by
  induction xs with
  | nil => exact .pure []
  | cons x rest ih =>
    rw [List.mapM_cons, List.flatMap_cons, ← List.append_nil (rest.flatMap paths)]
    exact (h x).bind (ha x) (ih.bind (.mapM ha rest) (.pure _))

/-- The accessor of a path is added if accessors are kept and it is not there yet. -/
theorem accessor_leaves (path : String) (p : Projector) :
    (accessor path p).2 = if p.config.cacheAccessors = true ∧ p.accessors.find? path = none
      then { p with accessors := p.accessors.insert path (Accessor.compile path) } else p := by
  show ((if p.config.cacheAccessors then _ else _ : StateM Projector Accessor) p).2 = _
  split_ifs with hcache hnew hnew
  · rw [hnew.2]
    rfl
  · obtain ⟨a, ha⟩ := Option.ne_none_iff_exists'.mp (mt (And.intro hcache) hnew)
    rw [ha]
    rfl
  · exact absurd hnew.1 hcache
  · rfl

theorem keeps_accessor (path : String) : Keeps (accessor path) [path] := by
  intro p _
  rw [accessor_leaves]
  split_ifs with hnew
  · refine ⟨rfl, fun path' => ?_⟩
    rw [mem_cachedPaths_iff, mem_cachedPaths_iff, SortedMap.find?_insert]
    split_ifs with hpath <;> simp [hpath, hnew.1]
  · refine ⟨rfl, fun path' => ⟨Or.inl, ?_⟩⟩
    rintro (hkept | ⟨hcache, hpath⟩)
    · exact hkept
    · rw [List.mem_singleton.mp hpath, mem_cachedPaths_iff, Option.isSome_iff_ne_none]
      exact mt (And.intro hcache) hnew

theorem keeps_projectPaths (paths : List String) (rows : List Value) (spec : ProjectionSpec) :
    Keeps (projectPaths paths rows spec) paths := by
  have hkeeps (path : String) :
      Keeps (do return (← accessor path, spec.outputName path)) [path] :=
    (keeps_accessor path).bind (answers_accessor path) (.pure _)
  have hanswers (path : String) : Answers (do return (← accessor path, spec.outputName path))
      (Accessor.compile path, spec.outputName path) := (answers_accessor path).bind (.pure _)
  have hall := (Keeps.mapM hkeeps hanswers paths).bind (.mapM hanswers paths) (.pure _)
  rwa [List.append_nil, List.flatMap_singleton'] at hall

/-- The path before a wildcard, which is followed in the first row unless it leads to the row
itself. -/
def parents (rows : List Value) (path : String) : List String :=
  match wildcard? path with
  | some parent => if rows.isEmpty || parent.isEmpty then [] else [parent]
  | none => []

theorem keeps_expanded (rows : List Value) (path : String) :
    Keeps (expanded rows path) (parents rows path) := by
  unfold expanded parents
  cases wildcard? path with
  | none => exact .pure _
  | some parent =>
    cases rows with
    | nil => exact .pure _
    | cons row rest =>
      have htarget : Keeps (targetOf parent row) (if parent.isEmpty then [] else [parent]) := by
        unfold targetOf
        split_ifs
        · exact .pure _
        · exact (keeps_accessor parent).bind (answers_accessor parent) (.pure _)
      have hkeys := htarget.bind (answers_targetOf parent row) (.pure _)
      rwa [List.append_nil] at hkeys

theorem keeps_project (rows : List Value) (spec : ProjectionSpec) :
    Keeps (project rows spec) (spec.fields.getD []) := by
  unfold project
  cases spec.fields with
  | none => exact .pure _
  | some paths =>
    have hall := (keeps_projectPaths paths rows spec).bind (answers_projectPaths paths rows spec)
      (.pure _)
    rwa [List.append_nil] at hall

theorem keeps_projectWithWildcards (rows : List Value) (spec : ProjectionSpec) :
    Keeps (projectWithWildcards rows spec)
      ((spec.fields.getD []).flatMap (parents rows)
        ++ (spec.fields.getD []).flatMap (expansion rows)) := by
  unfold projectWithWildcards
  cases spec.fields with
  | none => exact .pure _
  | some paths =>
    have hanswers := Answers.mapM (answers_expanded rows) paths
    have hproject := (keeps_projectPaths (paths.map (expansion rows)).flatten rows spec).bind
      (answers_projectPaths _ rows spec) (.pure _)
    rw [List.append_nil] at hproject
    exact (Keeps.mapM (keeps_expanded rows) (answers_expanded rows) paths).bind hanswers hproject

/-! ### Calls -/

/-- A call on a projector. -/
inductive Call where
  | project (rows : List Value) (spec : ProjectionSpec)
  | projectWithWildcards (rows : List Value) (spec : ProjectionSpec)
  | projectFlattened (rows : List Value) (depth : Option Nat)
  | clear

namespace Call

/-- Makes a call.  There is no answer to forgetting the accessors. -/
def make : Call → StateM Projector (Option (Except Error Projection))
  | .project rows spec => return some (← Projector.project rows spec)
  | .projectWithWildcards rows spec => return some (← Projector.projectWithWildcards rows spec)
  | .projectFlattened rows depth => return some (.ok ((← get).projectFlattened rows depth))
  | .clear => do
    modify Projector.cleared
    return none

def isClear : Call → Bool
  | .clear => true
  | _ => false

/-- The paths whose accessors a call needs. -/
def paths : Call → List String
  | .project _ spec => spec.fields.getD []
  | .projectWithWildcards rows spec =>
    (spec.fields.getD []).flatMap (parents rows) ++ (spec.fields.getD []).flatMap (expansion rows)
  | .projectFlattened _ _ => []
  | .clear => []

/-- The paths whose accessors are needed behind the last call that forgets them. -/
def pathsSinceClear (calls : List Call) : List String :=
  (calls.rtakeWhile fun call => !call.isClear).flatMap paths

/-- No answer depends on the accessors that are kept. -/
theorem answer_eq {p q : Projector} (hp : p.Faithful) (hq : q.Faithful)
    (hdepth : p.config.flattenDepth = q.config.flattenDepth) (call : Call) :
    (call.make p).1 = (call.make q).1 := by
  have hsame {m : StateM Projector (Except Error Projection)} {a : Except Error Projection}
      (hm : Answers m a) : (m p).1 = (m q).1 := by
    obtain ⟨p', hrunp, -⟩ := hm p hp
    obtain ⟨q', hrunq, -⟩ := hm q hq
    rw [hrunp, hrunq]
  cases call with
  | project rows spec => exact congrArg some (hsame (answers_project rows spec))
  | projectWithWildcards rows spec =>
    exact congrArg some (hsame (answers_projectWithWildcards rows spec))
  | projectFlattened rows depth =>
    show some (Except.ok (p.projectFlattened rows depth))
      = some (Except.ok (q.projectFlattened rows depth))
    unfold Projector.projectFlattened
    rw [hdepth]
  | clear => rfl

/-- What one call leaves of a projector with faithful accessors. -/
theorem make_spec {p : Projector} (hp : p.Faithful) (call : Call) :
    (call.make p).2.Faithful ∧ (call.make p).2.config = p.config ∧
      ∀ path, path ∈ (call.make p).2.cachedPaths ↔
        (call.isClear = false ∧ path ∈ p.cachedPaths) ∨
          p.config.cacheAccessors = true ∧ path ∈ call.paths := by
  have hadds {m : StateM Projector (Except Error Projection)} {a : Except Error Projection}
      {needed : List String} (ha : Answers m a) (hm : Keeps m needed) :
      (m p).2.Faithful ∧ (m p).2.config = p.config ∧
        ∀ path, path ∈ (m p).2.cachedPaths ↔ (false = false ∧ path ∈ p.cachedPaths) ∨
          p.config.cacheAccessors = true ∧ path ∈ needed := by
    obtain ⟨hconfig, hpaths⟩ := hm p hp
    obtain ⟨p', hrun, hp'⟩ := ha p hp
    refine ⟨by rwa [hrun], hconfig, fun path => ?_⟩
    rw [hpaths, and_iff_right rfl]
  cases call with
  | project rows spec => exact hadds (answers_project rows spec) (keeps_project rows spec)
  | projectWithWildcards rows spec =>
    exact hadds (answers_projectWithWildcards rows spec) (keeps_projectWithWildcards rows spec)
  | projectFlattened rows depth =>
    refine ⟨hp, rfl, fun path => ?_⟩
    show path ∈ p.cachedPaths ↔ _
    simp [isClear, paths]
  | clear =>
    refine ⟨faithful_of_empty rfl, rfl, fun path => ?_⟩
    show path ∈ [] ↔ _
    simp [isClear, paths]

theorem mapM_make_concat (calls : List Call) (call : Call) (p : Projector) :
    (calls ++ [call]).mapM make p
      = ((calls.mapM make p).1 ++ [(call.make (calls.mapM make p).2).1],
        (call.make (calls.mapM make p).2).2) := by
  rw [List.mapM_append, List.mapM_cons, List.mapM_nil]
  rfl

theorem mem_pathsSinceClear_concat {calls : List Call} {call : Call} {path : String} :
    path ∈ pathsSinceClear (calls ++ [call]) ↔
      (call.isClear = false ∧ path ∈ pathsSinceClear calls) ∨ path ∈ call.paths := by
  unfold pathsSinceClear
  rw [List.rtakeWhile_concat]
  cases call with
  | clear => simp [isClear, paths]
  | _ => simp [isClear]

/-- What a run of calls leaves of a new projector. -/
theorem mapM_make_spec (config : ProjectorConfig) (calls : List Call) :
    (calls.mapM make { config }).2.Faithful ∧ (calls.mapM make { config }).2.config = config ∧
      ∀ path, path ∈ (calls.mapM make { config }).2.cachedPaths ↔
        config.cacheAccessors = true ∧ path ∈ pathsSinceClear calls := by
  induction calls using List.reverseRecOn with
  | nil =>
    refine ⟨faithful_of_empty rfl, rfl, fun path => ?_⟩
    show path ∈ [] ↔ _
    simp [pathsSinceClear]
  | append_singleton calls call ih =>
    obtain ⟨hfaithful, hconfig, hpaths⟩ := ih
    obtain ⟨hfaithful', hconfig', hpaths'⟩ := make_spec hfaithful call
    rw [mapM_make_concat]
    refine ⟨hfaithful', hconfig'.trans hconfig, fun path => ?_⟩
    rw [hpaths', hpaths, hconfig, mem_pathsSinceClear_concat]
    tauto

/-- The answers of a run are those of its calls on projectors of their own. -/
theorem answers_mapM_make (config : ProjectorConfig) (calls : List Call) {q : Projector}
    (hq : q.Faithful) (hdepth : q.config.flattenDepth = config.flattenDepth) :
    (calls.mapM make { config }).1 = calls.map fun call => (call.make q).1 := by
  induction calls using List.reverseRecOn with
  | nil => rfl
  | append_singleton calls call ih =>
    obtain ⟨hfaithful, hconfig, -⟩ := mapM_make_spec config calls
    rw [mapM_make_concat, List.map_append, ih]
    have hlast := answer_eq hfaithful hq ((congrArg _ hconfig).trans hdepth.symm) call
    rw [hlast]
    rfl

end Call

/-- **Kept accessors are not seen.**  In a run of calls on a new projector, every call answers what
it answers on a new projector that keeps no accessors.  At its end, the cached paths stand in
ascending order; if accessors are kept, they are the paths needed since the accessors were last
forgotten, and otherwise there are none. -/
theorem runs_as_without_cache (config : ProjectorConfig) (calls : List Call) :
    (calls.mapM Call.make { config }).1
        = calls.map (fun call =>
            (call.make { config := { config with cacheAccessors := false } }).1) ∧
      (calls.mapM Call.make { config }).2.cachedPaths.Pairwise (fun a b => compare a b = .lt) ∧
      ∀ path, path ∈ (calls.mapM Call.make { config }).2.cachedPaths ↔
        config.cacheAccessors = true ∧ path ∈ Call.pathsSinceClear calls :=
  ⟨Call.answers_mapM_make config calls (faithful_of_empty rfl) rfl, sorted_cachedPaths _,
    (Call.mapM_make_spec config calls).2.2⟩

/-- The second call is refused, and what the first one needed is forgotten before the last one. -/
example :
    let calls : List Call :=
      [.project [] { fields := some ["id"] }, .project [] {}, .clear,
        .projectWithWildcards [.map [("tags", .list [])]] { fields := some ["*", "name.*", "id"] }]
    (calls.mapM Call.make {}).2.cachedPaths = ["id", "name", "tags"] := by decide

end PropertyGraph.Projector
