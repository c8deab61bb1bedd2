import Mathlib.Data.List.Perm.Subperm
import PropertyGraph.Proofs.Staging.Order
import PropertyGraph.Staging.StagedPlan

/-!
# The outcome of staging

`staging_outcome` says for every list of steps whether it can be staged and, where it cannot, which
error is reported: the first identity that is repeated (`FirstRepeated`), the first unknown identity
that a step waits for (`FirstStranger`), or all steps that cannot run because of a circle (`Stuck`).
-/

namespace PropertyGraph

variable {κ : Type} {steps : List (CostedStep κ)}

namespace StepOrder

/-! ### Culprits -/

/-- The first step whose identity an earlier step has is one of this identity. -/
def FirstRepeated (steps : List (CostedStep κ)) (id : String) : Prop :=
  ∃ front s back, steps = front ++ s :: back ∧ s.id = id ∧
    (front.map (·.id)).Nodup ∧ id ∈ front.map (·.id)

/-- The first step that waits for something unknown is one of this identity, and this dependency is
the first one of it that is unknown. -/
def FirstStranger (steps : List (CostedStep κ)) (id dependency : String) : Prop :=
  ∃ front s back, steps = front ++ s :: back ∧ s.id = id ∧
    (∀ t ∈ front, ∀ d ∈ t.dependsOn, d ∈ steps.map (·.id)) ∧
    ∃ known rest, s.dependsOn = known ++ dependency :: rest ∧
      (∀ d ∈ known, d ∈ steps.map (·.id)) ∧ dependency ∉ steps.map (·.id)

theorem repeated?_eq_some_iff (seen : List String) {id : String} :
    repeated? seen steps = some id ↔ ∃ front s back, steps = front ++ s :: back ∧ s.id = id ∧
      repeated? seen front = none ∧ (id ∈ seen ∨ id ∈ front.map (·.id)) := by
  have hmove : ∀ (first : String) (seen behind : List String),
      (id ∈ first :: seen ∨ id ∈ behind) ↔ id ∈ seen ∨ id ∈ first :: behind := by
    intro first seen behind
    rw [List.mem_cons, List.mem_cons, or_assoc, or_left_comm]
  induction steps generalizing seen with
  | nil => simp [repeated?]
  | cons s rest ih =>
    rw [repeated?]
    constructor
    · intro h
      split_ifs at h with hseen
      · obtain rfl := Option.some.inj h
        exact ⟨[], s, rest, rfl, rfl, rfl, Or.inl (List.contains_iff_mem.mp hseen)⟩
      · obtain ⟨front, t, back, rfl, ht, hnone, hid⟩ := (ih _).mp h
        refine ⟨s :: front, t, back, rfl, ht, ?_, (hmove s.id seen _).mp hid⟩
        rw [repeated?, if_neg hseen, hnone]
    · rintro ⟨front, t, back, heq, ht, hnone, hid⟩
      cases front with
      | nil =>
        obtain ⟨rfl, rfl⟩ := List.cons.inj heq
        rw [ht, if_pos (List.contains_iff_mem.mpr (hid.resolve_right List.not_mem_nil))]
      | cons first front =>
        obtain ⟨rfl, rfl⟩ := List.cons.inj heq
        rw [repeated?] at hnone
        split_ifs at hnone with hseen
        rw [if_neg hseen]
        exact (ih _).mpr ⟨front, t, back, rfl, ht, hnone, (hmove s.id seen _).mpr hid⟩

theorem repeated?_nil_eq_some_iff {id : String} :
    repeated? [] steps = some id ↔ FirstRepeated steps id := by
  simp only [repeated?_eq_some_iff, repeated?_nil_eq_none_iff, FirstRepeated, List.not_mem_nil,
    false_or]

theorem exists_firstRepeated_iff :
    (∃ id, FirstRepeated steps id) ↔ ¬ (steps.map (·.id)).Nodup := by
  simp only [← repeated?_nil_eq_some_iff, ← repeated?_nil_eq_none_iff]
  exact Option.ne_none_iff_exists'.symm

theorem stranger?_eq_some_iff (known : List String) {id dependency : String} :
    stranger? known steps = some (id, dependency) ↔
      ∃ front s back, steps = front ++ s :: back ∧ s.id = id ∧ stranger? known front = none ∧
        (s.dependsOn.find? fun d => !known.contains d) = some dependency := by
  induction steps with
  | nil => simp [stranger?]
  | cons s rest ih =>
    rw [stranger?]
    constructor
    · intro h
      cases hfind : s.dependsOn.find? fun d => !known.contains d with
      | some d =>
        rw [hfind] at h
        obtain ⟨rfl, rfl⟩ := Prod.mk.inj (Option.some.inj h)
        exact ⟨[], s, rest, rfl, rfl, rfl, hfind⟩
      | none =>
        rw [hfind] at h
        obtain ⟨front, t, back, rfl, ht, hnone, hfound⟩ := ih.mp h
        refine ⟨s :: front, t, back, rfl, ht, ?_, hfound⟩
        rw [stranger?, hfind]
        exact hnone
    · rintro ⟨front, t, back, heq, ht, hnone, hfound⟩
      cases front with
      | nil =>
        obtain ⟨rfl, rfl⟩ := List.cons.inj heq
        rw [hfound, ht]
      | cons first front =>
        obtain ⟨rfl, rfl⟩ := List.cons.inj heq
        rw [stranger?] at hnone
        split at hnone
        · cases hnone
        · exact ih.mpr ⟨front, t, back, rfl, ht, hnone, hfound⟩

theorem stranger?_ids_eq_some_iff {id dependency : String} :
    stranger? (steps.map (·.id)) steps = some (id, dependency) ↔
      FirstStranger steps id dependency := by
  have hfind : ∀ s : CostedStep κ,
      (s.dependsOn.find? fun d => !(steps.map (·.id)).contains d) = some dependency ↔
        ∃ known rest, s.dependsOn = known ++ dependency :: rest ∧
          (∀ d ∈ known, d ∈ steps.map (·.id)) ∧ dependency ∉ steps.map (·.id) := by
    intro s
    rw [List.find?_eq_some_iff_append]
    simp only [Bool.not_eq_true', Bool.not_not, List.contains_eq_mem, decide_eq_false_iff_not,
      decide_eq_true_eq]
    exact ⟨fun ⟨hd, known, rest, heq, hknown⟩ => ⟨known, rest, heq, hknown, hd⟩,
      fun ⟨known, rest, heq, hknown, hd⟩ => ⟨hd, known, rest, heq, hknown⟩⟩
  simp only [stranger?_eq_some_iff, stranger?_eq_none_iff, hfind, FirstStranger]

theorem exists_firstStranger_iff :
    (∃ id d, FirstStranger steps id d) ↔ ∃ s ∈ steps, ∃ d ∈ s.dependsOn, d ∉ steps.map (·.id) := by
  have hnone := (@stranger?_eq_none_iff κ steps (steps.map (·.id))).not
  push Not at hnone
  rw [← hnone, Option.ne_none_iff_exists', Prod.exists]
  simp only [stranger?_ids_eq_some_iff]

/-! ### Steps that are left -/

theorem takeAll_snd_sublist (taken queue waiting : List (CostedStep κ)) :
    (takeAll taken queue waiting).2.Sublist waiting := by
  induction taken, queue, waiting using takeAll.induct with
  | case1 taken waiting =>
    rw [takeAll]
  | case2 taken waiting s rest ih =>
    rw [takeAll]
    exact ih.trans List.filter_sublist

theorem left_sublist (steps : List (CostedStep κ)) : (left steps).Sublist steps :=
  (takeAll_snd_sublist _ _ _).trans List.filter_sublist

/-- Exactly the steps are left that cannot run because of a circle. -/
theorem mem_left_iff (hnodup : (steps.map (·.id)).Nodup)
    (hknown : ∀ s ∈ steps, ∀ d ∈ s.dependsOn, d ∈ steps.map (·.id)) {s : CostedStep κ}
    (hs : s ∈ steps) : s ∈ left steps ↔ Stuck steps s.id := by
  refine ⟨stuck_of_left hknown, fun hstuck => ?_⟩
  obtain ⟨hordered, hperm, -⟩ := sorted_spec steps
  have hids : ((sorted steps ++ left steps).map (·.id)).Nodup :=
    (hperm.map (·.id)).nodup_iff.mpr hnodup
  rw [List.map_append] at hids
  refine (List.mem_append.mp (hperm.symm.subset hs)).resolve_left fun hsorted => ?_
  exact hordered.not_stuck (fun t ht => hperm.subset (List.mem_append_left _ ht)) hnodup
    hids.of_append_left (List.mem_map_of_mem hsorted) hstuck

open Classical in
theorem left_eq_filter (hnodup : (steps.map (·.id)).Nodup)
    (hknown : ∀ s ∈ steps, ∀ d ∈ s.dependsOn, d ∈ steps.map (·.id)) :
    left steps = steps.filter fun s => Stuck steps s.id := by
  have hmem : ∀ s ∈ steps, s ∈ left steps ↔ Stuck steps s.id :=
    fun s hs => mem_left_iff hnodup hknown hs
  have hle : ((left steps).filter fun s => Stuck steps s.id).Sublist
      (steps.filter fun s => Stuck steps s.id) := (left_sublist steps).filter _
  rw [List.filter_eq_self.mpr] at hle
  · refine hle.eq_of_length_le (List.Subperm.length_le (List.subperm_of_subset ?_ ?_))
    · exact (List.Nodup.of_map _ hnodup).filter _
    · intro s hs
      obtain ⟨hs, hstuck⟩ := List.mem_filter.mp hs
      exact (hmem s hs).mpr (of_decide_eq_true hstuck)
  · intro s hs
    exact decide_eq_true ((hmem s ((left_sublist steps).subset hs)).mp hs)

/-- A circle is left, and what waits for a step on it. -/
example : (left ([⟨"seed", (), []⟩, ⟨"egg", (), ["hen"]⟩, ⟨"hen", (), ["egg"]⟩,
    ⟨"cake", (), ["seed", "egg"]⟩] : List (CostedStep Unit))).map (·.id)
      = ["egg", "hen", "cake"] := by
  decide +kernel

/-- Steps are left exactly where there is a circle. -/
theorem left_ne_nil_iff (hnodup : (steps.map (·.id)).Nodup)
    (hknown : ∀ s ∈ steps, ∀ d ∈ s.dependsOn, d ∈ steps.map (·.id)) :
    left steps ≠ [] ↔ ∃ id, Relation.TransGen (Waits steps) id id := by
  constructor
  · intro hne
    obtain ⟨s, hs⟩ := List.exists_mem_of_ne_nil _ hne
    obtain ⟨c, -, hcircle⟩ := stuck_of_left hknown hs
    exact ⟨c, hcircle⟩
  · rintro ⟨id, hcircle⟩
    obtain ⟨_, ⟨s, hs, rfl, -⟩, -⟩ := Relation.TransGen.head'_iff.mp hcircle
    exact List.ne_nil_of_mem ((mem_left_iff hnodup hknown hs).mpr ⟨s.id, .refl, hcircle⟩)

/-! ### Errors -/

theorem of_eq_invalidPlan_iff {fault : PlanFault} :
    of steps = .error (.invalidPlan fault) ↔
      ∃ id, fault = .duplicateStep id ∧ FirstRepeated steps id := by
  simp only [of_eq, ← repeated?_nil_eq_some_iff]
  cases repeated? [] steps with
  | some id => simp [eq_comm]
  | none =>
    cases stranger? (steps.map (·.id)) steps with
    | some names => simp
    | none => split_ifs <;> simp

theorem of_eq_unknownDependency_iff {id d : String} :
    of steps = .error (.unknownDependency id d) ↔
      (steps.map (·.id)).Nodup ∧ FirstStranger steps id d := by
  rw [of_eq, ← repeated?_nil_eq_none_iff, ← stranger?_ids_eq_some_iff]
  cases repeated? [] steps with
  | some id => simp
  | none =>
    cases stranger? (steps.map (·.id)) steps with
    | some names => simp [Prod.ext_iff]
    | none => split_ifs <;> simp

open Classical in
theorem of_eq_circularDependency_iff {ids : List String} :
    of steps = .error (.circularDependency ids) ↔
      (steps.map (·.id)).Nodup ∧ (∀ s ∈ steps, ∀ d ∈ s.dependsOn, d ∈ steps.map (·.id)) ∧
        (∃ id, Relation.TransGen (Waits steps) id id) ∧
        ids = (steps.map (·.id)).filter fun id => Stuck steps id := by
  have hleft : of steps = .error (.circularDependency ids) ↔
      repeated? [] steps = none ∧ stranger? (steps.map (·.id)) steps = none ∧
        left steps ≠ [] ∧ ids = (left steps).map (·.id) := by
    rw [of_eq]
    cases repeated? [] steps with
    | some id => simp
    | none =>
      cases stranger? (steps.map (·.id)) steps with
      | some names => simp
      | none =>
        simp only [true_and, List.isEmpty_iff]
        split_ifs with hnil
        · simp [hnil]
        · simp [hnil, eq_comm]
  rw [hleft, repeated?_nil_eq_none_iff, stranger?_eq_none_iff]
  refine and_congr_right fun hnodup => and_congr_right fun hknown => ?_
  rw [left_ne_nil_iff hnodup hknown, left_eq_filter hnodup hknown, List.filter_map]
  rfl

end StepOrder

/-! ### The outcome -/

open StepOrder (FirstRepeated FirstStranger Orderable Stuck Waits)

variable [CostNumber κ]

theorem StagedPlan.of_eq_error_iff {config : StagingConfig} {e : Error} :
    StagedPlan.of config steps = .error e ↔ StepOrder.of steps = .error e := by
  unfold StagedPlan.of
  cases StepOrder.of steps with
  | ok order => exact ⟨nofun, nofun⟩
  | error e' =>
    have hinj : ∀ {α : Type}, (.error e' : Except Error α) = .error e ↔ e' = e :=
      ⟨Except.error.inj, congrArg _⟩
    exact hinj.trans hinj.symm

theorem StagedPlan.exists_of_eq_ok_iff {config : StagingConfig} :
    (∃ plan, StagedPlan.of config steps = .ok plan) ↔ Orderable steps := by
  rw [StepOrder.orderable_iff]
  unfold StagedPlan.of
  cases StepOrder.of steps with
  | ok order => exact ⟨fun _ => ⟨order, rfl⟩, fun _ => ⟨_, rfl⟩⟩
  | error e => exact ⟨nofun, nofun⟩

open Classical in
/-- **Staging fails exactly on bad lists of steps, and names the culprits.**  A plan is invalid
where an identity is repeated, and the first repeated one is reported.  Otherwise a dependency is
unknown where some step waits for something that is not listed, and the first one is reported.
Otherwise dependencies are circular where some step waits for itself, perhaps through others, and
all steps are reported, in their order, that wait in a circle or for a step in one.  Otherwise
staging succeeds. -/
theorem staging_outcome (config : StagingConfig) (steps : List (CostedStep κ)) :
    ((∃ fault, StagedPlan.of config steps = .error (.invalidPlan fault)) ↔
      ¬ (steps.map (·.id)).Nodup) ∧
    (∀ fault, StagedPlan.of config steps = .error (.invalidPlan fault) ↔
      ∃ id, fault = .duplicateStep id ∧ FirstRepeated steps id) ∧
    ((∃ id d, StagedPlan.of config steps = .error (.unknownDependency id d)) ↔
      (steps.map (·.id)).Nodup ∧ ∃ s ∈ steps, ∃ d ∈ s.dependsOn, d ∉ steps.map (·.id)) ∧
    (∀ id d, StagedPlan.of config steps = .error (.unknownDependency id d) ↔
      (steps.map (·.id)).Nodup ∧ FirstStranger steps id d) ∧
    ((∃ ids, StagedPlan.of config steps = .error (.circularDependency ids)) ↔
      (steps.map (·.id)).Nodup ∧ (∀ s ∈ steps, ∀ d ∈ s.dependsOn, d ∈ steps.map (·.id)) ∧
        ∃ id, Relation.TransGen (Waits steps) id id) ∧
    (∀ ids, StagedPlan.of config steps = .error (.circularDependency ids) ↔
      (steps.map (·.id)).Nodup ∧ (∀ s ∈ steps, ∀ d ∈ s.dependsOn, d ∈ steps.map (·.id)) ∧
        (∃ id, Relation.TransGen (Waits steps) id id) ∧
        ids = (steps.map (·.id)).filter fun id => Stuck steps id) ∧
    ((∃ plan, StagedPlan.of config steps = .ok plan) ↔ Orderable steps) := by
  simp only [StagedPlan.of_eq_error_iff, StepOrder.of_eq_invalidPlan_iff,
    StepOrder.of_eq_unknownDependency_iff, StepOrder.of_eq_circularDependency_iff,
    StepOrder.exists_firstStranger_iff, StagedPlan.exists_of_eq_ok_iff,
    ← StepOrder.exists_firstRepeated_iff, exists_and_left, exists_eq, implies_true, and_true]
  exact ⟨fun ⟨_, id, _, h⟩ => ⟨id, h⟩, fun ⟨id, h⟩ => ⟨_, id, rfl, h⟩⟩

end PropertyGraph
