import Mathlib.Data.Fintype.Card
import Mathlib.Data.Set.Finite.Basic
import Mathlib.Logic.Relation
import Mathlib.Order.WellFounded
import PropertyGraph.Staging.Order

/-!
# Orders of steps

A list of steps is `Ordered` if each step is ready behind those in front of it.  `takeAll_spec` says
what taking steps comes to: an ordered list, and the steps that are left are not ready behind it.
Steps are left only because of a circle (`stuck_of_left`), and there is no circle in an ordered list
(`Ordered.not_stuck`); so exactly the steps without a circle are put into an order
(`orderable_iff`).

In an ordered list a step is deeper than all it waits for, and deeper by one than one of them unless
it has depth zero (`depth_lt`, `exists_depth_eq`).
-/

namespace PropertyGraph

variable {κ : Type}

/-! ### Being ready -/

namespace CostedStep

variable {finished finished' : List String} {s : CostedStep κ}

theorem isReady_iff : s.isReady finished ↔ ∀ d ∈ s.dependsOn, d ∈ finished := by
  unfold isReady
  rw [List.all_eq_true]
  simp only [List.contains_iff_mem]

theorem isReady_mono (h : s.isReady finished) (hle : ∀ d ∈ finished, d ∈ finished') :
    s.isReady finished' := by
  rw [isReady_iff] at h ⊢
  exact fun d hd => hle d (h d hd)

end CostedStep

namespace StepOrder

variable {steps taken queue waiting order : List (CostedStep κ)}

/-! ### Steps that can be ordered -/

/-- Some step of the first identity waits for the second. -/
def Waits (steps : List (CostedStep κ)) (id dependency : String) : Prop :=
  ∃ s ∈ steps, s.id = id ∧ dependency ∈ s.dependsOn

/-- The steps have identities of their own, wait for nothing unknown and wait for each other in no
circle. -/
structure Orderable (steps : List (CostedStep κ)) : Prop where
  nodup : (steps.map (·.id)).Nodup
  known : ∀ s ∈ steps, ∀ d ∈ s.dependsOn, d ∈ steps.map (·.id)
  acyclic : ∀ id, ¬ Relation.TransGen (Waits steps) id id

/-- The identity is on a circle of waiting steps, or waits, through others, for one that is. -/
def Stuck (steps : List (CostedStep κ)) (id : String) : Prop :=
  ∃ c, Relation.ReflTransGen (Waits steps) id c ∧ Relation.TransGen (Waits steps) c c

theorem Orderable.not_stuck (h : Orderable steps) (id : String) : ¬ Stuck steps id := by
  rintro ⟨c, -, hcircle⟩
  exact h.acyclic c hcircle

theorem repeated?_eq_none_iff (seen : List String) :
    repeated? seen steps = none ↔ (∀ s ∈ steps, s.id ∉ seen) ∧ (steps.map (·.id)).Nodup := by
  induction steps generalizing seen with
  | nil => simp [repeated?]
  | cons s rest ih =>
    unfold repeated?
    by_cases hseen : s.id ∈ seen
    · simp [hseen]
    · rw [if_neg (by simpa using hseen), ih, List.forall_mem_cons]
      simp only [List.mem_cons, not_or, List.map_cons, List.nodup_cons, List.mem_map, not_exists,
        not_and]
      constructor
      · rintro ⟨hrest, hnodup⟩
        exact ⟨⟨hseen, fun t ht => (hrest t ht).2⟩, fun t ht => (hrest t ht).1, hnodup⟩
      · rintro ⟨⟨-, hrest⟩, hne, hnodup⟩
        exact ⟨fun t ht => ⟨hne t ht, hrest t ht⟩, hnodup⟩

theorem repeated?_nil_eq_none_iff : repeated? [] steps = none ↔ (steps.map (·.id)).Nodup := by
  rw [repeated?_eq_none_iff]
  exact and_iff_right fun _ _ => List.not_mem_nil

theorem stranger?_eq_none_iff (known : List String) :
    stranger? known steps = none ↔ ∀ s ∈ steps, ∀ d ∈ s.dependsOn, d ∈ known := by
  induction steps with
  | nil => simp [stranger?]
  | cons s rest ih =>
    unfold stranger?
    rw [List.forall_mem_cons]
    cases hfind : s.dependsOn.find? fun d => !known.contains d with
    | some d =>
      have hd := List.find?_some hfind
      have hmem := List.mem_of_find?_eq_some hfind
      simp only [reduceCtorEq, false_iff, not_and]
      intro hall
      simp [hall d hmem] at hd
    | none =>
      rw [List.find?_eq_none] at hfind
      simp only [Bool.not_eq_true', Bool.not_eq_false, List.contains_iff_mem] at hfind
      rw [ih]
      exact ⟨fun h => ⟨hfind, h⟩, fun h => h.2⟩

/-! ### Taking steps -/

/-- Each step is ready behind those in front of it. -/
inductive Ordered : List (CostedStep κ) → Prop where
  | nil : Ordered []
  | snoc {order : List (CostedStep κ)} {s : CostedStep κ} :
    Ordered order → s.isReady (order.map (·.id)) → Ordered (order ++ [s])

/-- A step of an ordered list waits only for steps of the list. -/
theorem Ordered.known (hordered : Ordered order) {s : CostedStep κ} (hs : s ∈ order) {d : String}
    (hd : d ∈ s.dependsOn) : d ∈ order.map (·.id) := by
  induction hordered with
  | nil => exact (List.not_mem_nil hs).elim
  | snoc _ hready ih =>
    rw [List.map_append]
    refine List.mem_append_left _ ?_
    rcases List.mem_append.mp hs with hs | hs
    · exact ih hs
    · obtain rfl := List.mem_singleton.mp hs
      exact CostedStep.isReady_iff.mp hready d hd

theorem released_append_held_perm (taken waiting : List (CostedStep κ)) :
    (released taken waiting ++ held taken waiting).Perm waiting :=
  List.filter_append_perm _ waiting

theorem isReady_of_mem_released {s : CostedStep κ} (h : s ∈ released taken waiting) :
    s.isReady (taken.map (·.id)) :=
  List.of_mem_filter h

theorem not_isReady_of_mem_held {s : CostedStep κ} (h : s ∈ held taken waiting) :
    ¬ s.isReady (taken.map (·.id)) := by
  have := List.of_mem_filter h
  simpa using this

/-- Taking the steps of a queue that are ready gives an ordered list.  What is left is not ready
behind it, and nothing is lost. -/
theorem takeAll_spec (htaken : Ordered taken)
    (hqueue : ∀ s ∈ queue, s.isReady (taken.map (·.id)))
    (hwaiting : ∀ s ∈ waiting, ¬ s.isReady (taken.map (·.id))) :
    Ordered (takeAll taken queue waiting).1 ∧
      ((takeAll taken queue waiting).1 ++ (takeAll taken queue waiting).2).Perm
        (taken ++ queue ++ waiting) ∧
      ∀ s ∈ (takeAll taken queue waiting).2,
        ¬ s.isReady ((takeAll taken queue waiting).1.map (·.id)) := by
  induction taken, queue, waiting using takeAll.induct with
  | case1 taken waiting =>
    unfold takeAll
    rw [List.append_nil]
    exact ⟨htaken, List.Perm.refl _, hwaiting⟩
  | case2 taken waiting s rest ih =>
    unfold takeAll
    have hs : s.isReady (taken.map (·.id)) := hqueue s List.mem_cons_self
    have hmore : ∀ d ∈ taken.map (·.id), d ∈ (taken ++ [s]).map (·.id) := by
      intro d hd
      rw [List.map_append]
      exact List.mem_append_left _ hd
    have hnext : ∀ t ∈ rest ++ released (taken ++ [s]) waiting,
        t.isReady ((taken ++ [s]).map (·.id)) := by
      intro t ht
      -- what was ready stays so, since finished steps only get more
      rcases List.mem_append.mp ht with ht | ht
      · exact CostedStep.isReady_mono (hqueue t (List.mem_cons_of_mem s ht)) hmore
      · exact isReady_of_mem_released ht
    obtain ⟨hordered, hperm, hstuck⟩ :=
      ih (htaken.snoc hs) hnext fun t ht => not_isReady_of_mem_held ht
    refine ⟨hordered, hperm.trans ?_, hstuck⟩
    have hsplit := released_append_held_perm (taken ++ [s]) waiting
    calc (taken ++ [s] ++ (rest ++ released (taken ++ [s]) waiting)
          ++ held (taken ++ [s]) waiting)
        = (taken ++ s :: rest)
          ++ (released (taken ++ [s]) waiting ++ held (taken ++ [s]) waiting) := by simp
      _ |>.Perm (taken ++ s :: rest ++ waiting) := hsplit.append_left _

/-- Of steps none of which is on a circle, some step waits for none of them. -/
theorem exists_first (steps : List (CostedStep κ)) {others : List (CostedStep κ)}
    (hne : others ≠ [])
    (hacyclic : ∀ s ∈ others, ¬ Relation.TransGen (Waits steps) s.id s.id) :
    ∃ s ∈ others, ∀ t ∈ others, ¬ Waits steps s.id t.id := by
  let waitsFor (a b : { s // s ∈ others }) : Prop := Relation.TransGen (Waits steps) b.1.id a.1.id
  have htrans : IsTrans { s // s ∈ others } waitsFor := ⟨fun _ _ _ hab hbc => hbc.trans hab⟩
  have hirrefl : Std.Irrefl waitsFor := ⟨fun a => hacyclic a.1 a.2⟩
  have hfinite : Finite { s // s ∈ others } := (List.finite_toSet others).to_subtype
  have hwf : WellFounded waitsFor := Finite.wellFounded_of_trans_of_irrefl waitsFor
  obtain ⟨s, hs⟩ := List.exists_mem_of_ne_nil others hne
  obtain ⟨first, -, hfirst⟩ := hwf.has_min Set.univ ⟨⟨s, hs⟩, trivial⟩
  exact ⟨first.1, first.2, fun t ht hwaits => hfirst ⟨t, ht⟩ trivial (.single hwaits)⟩

/-- The steps in the order in which they are taken. -/
def sorted (steps : List (CostedStep κ)) : List (CostedStep κ) :=
  (takeAll [] (released [] steps) (held [] steps)).1

/-- The steps that are left when no more can be taken. -/
def left (steps : List (CostedStep κ)) : List (CostedStep κ) :=
  (takeAll [] (released [] steps) (held [] steps)).2

/-- The order that is found: ordered steps and, behind them, those that are left. -/
theorem sorted_spec (steps : List (CostedStep κ)) :
    Ordered (sorted steps) ∧ (sorted steps ++ left steps).Perm steps ∧
      ∀ s ∈ left steps, ¬ s.isReady ((sorted steps).map (·.id)) := by
  obtain ⟨hordered, hperm, hstuck⟩ :=
    @takeAll_spec κ [] (released [] steps) (held [] steps) Ordered.nil
      (fun s hs => isReady_of_mem_released hs) (fun s hs => not_isReady_of_mem_held hs)
  rw [List.nil_append] at hperm
  exact ⟨hordered, hperm.trans (released_append_held_perm [] steps), hstuck⟩

/-- What becomes of steps, in the terms above. -/
theorem of_eq (steps : List (CostedStep κ)) :
    of steps =
      match repeated? [] steps with
      | some id => .error (.invalidPlan (.duplicateStep id))
      | none =>
        match stranger? (steps.map (·.id)) steps with
        | some (step, dependency) => .error (.unknownDependency step dependency)
        | none =>
          if (left steps).isEmpty then .ok (sorted steps)
          else .error (.circularDependency ((left steps).map (·.id))) := by
  unfold of
  cases repeated? [] steps with
  | some id => rfl
  | none => cases stranger? (steps.map (·.id)) steps <;> rfl

/-- Steps are left only because of circles. -/
theorem stuck_of_left (hknown : ∀ s ∈ steps, ∀ d ∈ s.dependsOn, d ∈ steps.map (·.id))
    {s : CostedStep κ} (hs : s ∈ left steps) : Stuck steps s.id := by
  classical
  obtain ⟨-, hperm, hstuck⟩ := sorted_spec steps
  by_contra hfree
  -- otherwise look at those that are left without a circle to wait for, and at a first one of them
  set others := (left steps).filter fun t => ¬ Stuck steps t.id with hothers
  have hmem : ∀ t, t ∈ others ↔ t ∈ left steps ∧ ¬ Stuck steps t.id := by
    intro t
    rw [hothers, List.mem_filter, decide_eq_true_eq]
  obtain ⟨first, hfirst, hwaits⟩ := exists_first steps
    (List.ne_nil_of_mem ((hmem s).mpr ⟨hs, hfree⟩))
    fun t ht hcircle => ((hmem t).mp ht).2 ⟨t.id, .refl, hcircle⟩
  obtain ⟨hleft, hfirstFree⟩ := (hmem first).mp hfirst
  refine hstuck first hleft (CostedStep.isReady_iff.mpr fun d hd => ?_)
  -- what it waits for is a step, and not one of those that are left
  have hsteps : first ∈ steps := hperm.subset (List.mem_append_right _ hleft)
  obtain ⟨t, ht, rfl⟩ := List.mem_map.mp (hknown first hsteps d hd)
  have hwait : Waits steps first.id t.id := ⟨first, hsteps, rfl, hd⟩
  rcases List.mem_append.mp (hperm.symm.subset ht) with ht | ht
  · exact List.mem_map_of_mem ht
  · refine absurd hwait (hwaits t ((hmem t).mpr ⟨ht, fun hcircle => hfirstFree ?_⟩))
    obtain ⟨c, hreach, hcircle⟩ := hcircle
    exact ⟨c, hreach.head hwait, hcircle⟩

/-- Steps that can be ordered are. -/
theorem Orderable.exists_of_eq_ok (h : Orderable steps) :
    ∃ order, of steps = .ok order ∧ order.Perm steps ∧ Ordered order := by
  have hrepeated : repeated? [] steps = none := repeated?_nil_eq_none_iff.mpr h.nodup
  have hstranger : stranger? (steps.map (·.id)) steps = none :=
    (stranger?_eq_none_iff _).mpr h.known
  obtain ⟨hordered, hperm, -⟩ := sorted_spec steps
  have hnil : left steps = [] :=
    List.eq_nil_iff_forall_not_mem.mpr fun s hs => h.not_stuck s.id (stuck_of_left h.known hs)
  refine ⟨sorted steps, ?_, ?_, hordered⟩
  · rw [of_eq, hrepeated, hstranger, hnil]
    rfl
  · rwa [hnil, List.append_nil] at hperm

/-! ### Values along chains of dependencies -/

theorem mem_dependencies {s : CostedStep κ} {d : String} :
    d ∈ s.dependencies ↔ d ∈ s.dependsOn :=
  List.mem_eraseDups

/-- The last step of an ordered list has an identity that no step before it has. -/
theorem not_mem_of_nodup_snoc {order : List (CostedStep κ)} {s : CostedStep κ}
    (h : ((order ++ [s]).map (·.id)).Nodup) :
    s.id ∉ order.map (·.id) ∧ (order.map (·.id)).Nodup := by
  rw [List.map_append, List.nodup_append] at h
  exact ⟨fun hmem => h.2.2 s.id hmem s.id (List.mem_singleton_self _) rfl, h.1⟩

section AlongChains

variable {β : Type} (value : CostedStep κ → List β → β)

theorem alongChains_snoc (order : List (CostedStep κ)) (s : CostedStep κ) :
    alongChains value (order ++ [s])
      = alongChains value order ++ [(s.id, value s
          (s.dependencies.filterMap fun d => (alongChains value order).lookup d))] := by
  unfold alongChains
  rw [List.foldl_append]
  rfl

theorem map_fst_alongChains (order : List (CostedStep κ)) :
    (alongChains value order).map (·.1) = order.map (·.id) := by
  induction order using List.reverseRecOn with
  | nil => rfl
  | append_singleton order s ih =>
    rw [alongChains_snoc, List.map_append, ih, List.map_append]
    rfl

theorem lookup_alongChains_isSome {order : List (CostedStep κ)} {id : String} :
    ((alongChains value order).lookup id).isSome ↔ id ∈ order.map (·.id) := by
  rw [List.lookup_isSome_iff, ← map_fst_alongChains value order, List.mem_map]
  constructor
  · rintro ⟨p, hp, heq⟩
    exact ⟨p, hp, (eq_of_beq heq).symm⟩
  · rintro ⟨p, hp, rfl⟩
    exact ⟨p, hp, beq_self_eq_true p.1⟩

/-- A known value is not computed again. -/
theorem lookup_alongChains_snoc_of_mem {order : List (CostedStep κ)} {s : CostedStep κ}
    {id : String} (h : id ∈ order.map (·.id)) :
    (alongChains value (order ++ [s])).lookup id = (alongChains value order).lookup id := by
  rw [alongChains_snoc, List.lookup_append]
  obtain ⟨v, hv⟩ := Option.isSome_iff_exists.mp ((lookup_alongChains_isSome value).mpr h)
  rw [hv]
  rfl

theorem lookup_alongChains_snoc_self {order : List (CostedStep κ)} {s : CostedStep κ}
    (h : s.id ∉ order.map (·.id)) :
    (alongChains value (order ++ [s])).lookup s.id
      = some (value s (s.dependencies.filterMap fun d => (alongChains value order).lookup d)) := by
  have hnone : (alongChains value order).lookup s.id = none := by
    rw [← Option.not_isSome_iff_eq_none, lookup_alongChains_isSome]
    exact h
  rw [alongChains_snoc, List.lookup_append, hnone, Option.none_or, List.lookup_cons_self]

/-- The value of a step is that of its dependencies, wherever the step stands in an ordered list. -/
theorem lookup_alongChains (hordered : Ordered order) (hnodup : (order.map (·.id)).Nodup)
    {s : CostedStep κ} (hs : s ∈ order) :
    (alongChains value order).lookup s.id
      = some (value s (s.dependencies.filterMap fun d => (alongChains value order).lookup d)) := by
  induction hordered with
  | nil => exact (List.not_mem_nil hs).elim
  | @snoc order t hordered hready ih =>
    obtain ⟨hnew, hnodup⟩ := not_mem_of_nodup_snoc hnodup
    -- what a step waits for stands in front of the last one and has its value by then
    have hbefore : ∀ {s : CostedStep κ}, (∀ d ∈ s.dependsOn, d ∈ order.map (·.id)) →
        (s.dependencies.filterMap fun d => (alongChains value (order ++ [t])).lookup d)
          = s.dependencies.filterMap fun d => (alongChains value order).lookup d :=
      fun h => List.filterMap_congr fun d hd =>
        lookup_alongChains_snoc_of_mem value (h d (mem_dependencies.mp hd))
    rcases List.mem_append.mp hs with hs | hs
    · rw [lookup_alongChains_snoc_of_mem value (List.mem_map_of_mem hs), ih hnodup hs,
        hbefore fun d hd => hordered.known hs hd]
    · obtain rfl := List.mem_singleton.mp hs
      rw [lookup_alongChains_snoc_self value hnew, hbefore (CostedStep.isReady_iff.mp hready)]

theorem lookup_of_mem_alongChains (hnodup : (order.map (·.id)).Nodup) {id : String} {v : β}
    (h : (id, v) ∈ alongChains value order) : (alongChains value order).lookup id = some v := by
  obtain ⟨front, back, heq⟩ := List.append_of_mem h
  refine List.lookup_eq_some_iff.mpr ⟨front, back, heq, fun p hp => ?_⟩
  rw [← map_fst_alongChains value, heq, List.map_append, List.nodup_append] at hnodup
  exact bne_iff_ne.mpr fun hid =>
    hnodup.2.2 p.1 (List.mem_map_of_mem hp) id List.mem_cons_self hid.symm

end AlongChains

/-! ### Depths -/

theorem le_foldl_max {ns : List Nat} {n : Nat} (h : n ∈ ns) : n ≤ ns.foldl max 0 := by
  have hne : ns ≠ [] := List.ne_nil_of_mem h
  rw [List.foldl_max_eq_max hne]
  exact Nat.le_trans (List.le_max_of_mem h) (Nat.le_max_right _ _)

theorem foldl_max_mem {ns : List Nat} (h : ns ≠ []) : ns.foldl max 0 ∈ ns := by
  rw [List.foldl_max_eq_max h, Nat.zero_max]
  exact List.max_mem h

/-- The depth of the step of an identity. -/
def depth? (order : List (CostedStep κ)) (id : String) : Option Nat := (depths order).lookup id

theorem depth?_isSome {order : List (CostedStep κ)} {id : String} :
    (depth? order id).isSome ↔ id ∈ order.map (·.id) :=
  lookup_alongChains_isSome _

/-- The depth of a step, by the depths of what it waits for. -/
theorem depth?_eq (hordered : Ordered order) (hnodup : (order.map (·.id)).Nodup)
    {s : CostedStep κ} (hs : s ∈ order) :
    depth? order s.id
      = some (((s.dependencies.filterMap (depth? order)).map (· + 1)).foldl max 0) :=
  lookup_alongChains _ hordered hnodup hs

/-- A step is deeper than all it waits for. -/
theorem Ordered.depth_lt (hordered : Ordered order) (hnodup : (order.map (·.id)).Nodup)
    {s : CostedStep κ} (hs : s ∈ order) {d : String} (hd : d ∈ s.dependsOn) {k : Nat}
    (hk : depth? order s.id = some k) : ∃ j < k, depth? order d = some j := by
  obtain ⟨j, hj⟩ := Option.isSome_iff_exists.mp (depth?_isSome.mpr (hordered.known hs hd))
  rw [depth?_eq hordered hnodup hs] at hk
  have hmem : j + 1 ∈ (s.dependencies.filterMap (depth? order)).map (· + 1) :=
    List.mem_map_of_mem (List.mem_filterMap.mpr ⟨d, mem_dependencies.mpr hd, hj⟩)
  have hle := le_foldl_max hmem
  rw [Option.some.inj hk] at hle
  exact ⟨j, hle, hj⟩

/-- A step that has to wait is deeper by one than one of the steps it waits for. -/
theorem Ordered.exists_depth_eq (hordered : Ordered order) (hnodup : (order.map (·.id)).Nodup)
    {s : CostedStep κ} (hs : s ∈ order) {k : Nat} (hk : depth? order s.id = some (k + 1)) :
    ∃ d ∈ s.dependsOn, depth? order d = some k := by
  rw [depth?_eq hordered hnodup hs] at hk
  set before := (s.dependencies.filterMap (depth? order)).map (· + 1) with hbefore
  have hmax : before.foldl max 0 = k + 1 := Option.some.inj hk
  have hne : before ≠ [] := by
    intro hnil
    rw [hnil] at hmax
    cases hmax
  have hmem := foldl_max_mem hne
  rw [hmax, hbefore] at hmem
  obtain ⟨j, hj, heq⟩ := List.mem_map.mp hmem
  obtain rfl : j = k := Nat.succ.inj heq
  obtain ⟨d, hd, hdepth⟩ := List.mem_filterMap.mp hj
  exact ⟨d, mem_dependencies.mp hd, hdepth⟩

/-- Induction along dependencies: what holds of a step if it holds of all it waits for holds of all
steps of an ordered list. -/
theorem Ordered.induction {P : CostedStep κ → Prop} (hordered : Ordered order)
    (hnodup : (order.map (·.id)).Nodup)
    (h : ∀ s ∈ order, (∀ t ∈ order, t.id ∈ s.dependsOn → P t) → P s) : ∀ s ∈ order, P s := by
  have hdepth : ∀ k, ∀ s ∈ order, depth? order s.id = some k → P s := by
    intro k
    induction k using Nat.strong_induction_on with
    | _ k ih =>
      intro s hs hk
      refine h s hs fun t ht hwait => ?_
      obtain ⟨j, hj, hdepth⟩ := hordered.depth_lt hnodup hs hwait hk
      exact ih j hj t ht hdepth
  intro s hs
  obtain ⟨k, hk⟩ := Option.isSome_iff_exists.mp (depth?_isSome.mpr (List.mem_map_of_mem hs))
  exact hdepth k s hs hk

/-! ### Which steps can be ordered -/

/-- What was put into an order has distinct identities, knows all it waits for, and is ordered. -/
theorem of_eq_ok_spec (h : of steps = .ok order) :
    (steps.map (·.id)).Nodup ∧ (∀ s ∈ steps, ∀ d ∈ s.dependsOn, d ∈ steps.map (·.id)) ∧
      order.Perm steps ∧ Ordered order := by
  rw [of_eq] at h
  cases hrepeated : repeated? [] steps with
  | some id => rw [hrepeated] at h; cases h
  | none =>
    cases hstranger : stranger? (steps.map (·.id)) steps with
    | some names => rw [hrepeated, hstranger] at h; cases h
    | none =>
      simp only [hrepeated, hstranger] at h
      refine ⟨repeated?_nil_eq_none_iff.mp hrepeated, (stranger?_eq_none_iff _).mp hstranger, ?_⟩
      obtain ⟨hordered, hperm, -⟩ := sorted_spec steps
      split_ifs at h with hnil
      obtain rfl := Except.ok.inj h
      rw [List.isEmpty_iff.mp hnil, List.append_nil] at hperm
      exact ⟨hperm, hordered⟩

theorem Ordered.append {others : List (CostedStep κ)} (hordered : Ordered order)
    (hothers : Ordered others) : Ordered (order ++ others) := by
  induction hothers with
  | nil =>
    rw [List.append_nil]
    exact hordered
  | snoc _ hready ih =>
    rw [← List.append_assoc]
    refine ih.snoc (CostedStep.isReady_mono hready fun d hd => ?_)
    rw [List.map_append]
    exact List.mem_append_right _ hd

/-- Along a chain of dependencies the steps of an ordered list get less and less deep. -/
theorem Ordered.depth_lt_of_transGen (hordered : Ordered order) (hsub : ∀ s ∈ order, s ∈ steps)
    (hnodup : (steps.map (·.id)).Nodup) (hids : (order.map (·.id)).Nodup) {a b : String}
    (hchain : Relation.TransGen (Waits steps) a b) {k : Nat} (hk : depth? order a = some k) :
    ∃ j < k, depth? order b = some j := by
  have hwaits : ∀ {a b : String} {k : Nat}, Waits steps a b → depth? order a = some k →
      ∃ j < k, depth? order b = some j := by
    rintro _ b k ⟨s, hs, rfl, hd⟩ hk
    obtain ⟨t, ht, heq⟩ := List.mem_map.mp (depth?_isSome.mp (Option.isSome_of_eq_some hk))
    obtain rfl := List.inj_on_of_nodup_map hnodup (hsub t ht) hs heq
    exact hordered.depth_lt hids ht hd hk
  induction hchain with
  | single hwait => exact hwaits hwait hk
  | tail _ hwait ih =>
    obtain ⟨j, hj, hdepth⟩ := ih
    obtain ⟨i, hi, hdepth⟩ := hwaits hwait hdepth
    exact ⟨i, hi.trans hj, hdepth⟩

/-- No step of an ordered list waits in a circle or for one. -/
theorem Ordered.not_stuck (hordered : Ordered order) (hsub : ∀ s ∈ order, s ∈ steps)
    (hnodup : (steps.map (·.id)).Nodup) (hids : (order.map (·.id)).Nodup) {id : String}
    (hid : id ∈ order.map (·.id)) : ¬ Stuck steps id := by
  rintro ⟨c, hreach, hcircle⟩
  obtain ⟨k, hk⟩ := Option.isSome_iff_exists.mp (depth?_isSome.mpr hid)
  have hdepth : ∃ j, depth? order c = some j := by
    rcases Relation.reflTransGen_iff_eq_or_transGen.mp hreach with rfl | hchain
    · exact ⟨k, hk⟩
    · obtain ⟨j, -, hj⟩ := hordered.depth_lt_of_transGen hsub hnodup hids hchain hk
      exact ⟨j, hj⟩
  obtain ⟨j, hj⟩ := hdepth
  obtain ⟨i, hi, hj'⟩ := hordered.depth_lt_of_transGen hsub hnodup hids hcircle hj
  exact hi.ne (Option.some.inj (hj'.symm.trans hj))

/-- Steps that can be listed in order, and have identities of their own, can be ordered. -/
theorem Ordered.orderable (hordered : Ordered order) (hnodup : (steps.map (·.id)).Nodup)
    (hperm : order.Perm steps) : Orderable steps := by
  have hids : (order.map (·.id)).Nodup := (hperm.map (·.id)).nodup_iff.mpr hnodup
  refine ⟨hnodup, fun s hs d hd => ?_, fun id hcircle => ?_⟩
  · exact (hperm.map (·.id)).subset (hordered.known (hperm.symm.subset hs) hd)
  · -- an identity that waits is that of a step, so it is in the list
    obtain ⟨_, ⟨s, hs, rfl, -⟩, -⟩ := Relation.TransGen.head'_iff.mp hcircle
    exact hordered.not_stuck (fun t ht => hperm.subset ht) hnodup hids
      (List.mem_map_of_mem (hperm.symm.subset hs)) ⟨s.id, .refl, hcircle⟩

/-- Exactly the steps that can be ordered are. -/
theorem orderable_iff : Orderable steps ↔ ∃ order, of steps = .ok order := by
  constructor
  · intro h
    obtain ⟨order, horder, -⟩ := h.exists_of_eq_ok
    exact ⟨order, horder⟩
  · rintro ⟨order, horder⟩
    obtain ⟨hnodup, -, hperm, hordered⟩ := of_eq_ok_spec horder
    exact hordered.orderable hnodup hperm

/-- Running the code shows that steps can be ordered. -/
theorem orderable_of_toBool (h : (of steps).toBool = true) : Orderable steps := by
  refine orderable_iff.mpr ?_
  cases hof : of steps with
  | ok order => exact ⟨order, rfl⟩
  | error e => rw [hof] at h; cases h

end StepOrder

end PropertyGraph
