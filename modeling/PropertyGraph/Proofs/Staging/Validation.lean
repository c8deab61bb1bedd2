import Mathlib.Data.List.Nodup
import PropertyGraph.Proofs.Staging.Stage
import PropertyGraph.Staging.Validation

/-!
# Checking stages

`ofStages_eq_nil_iff`: no fault is found in stages exactly where they divide the given steps, each
of which runs once and behind the stages of all that the given list makes it wait for.  What the
steps in the stages say themselves does not matter.

Each of the three checks is exact by itself: the counts (`inCounts_eq_nil_iff`), the names
(`inNames_eq_nil_iff`), and the order, which asks for layers of steps that wait for what they are
expected to (`inOrder_eq_nil_iff`).
-/

namespace PropertyGraph.StagingFault

open Stage (Layered)

variable {κ : Type} {steps : List (CostedStep κ)} {stages : List (Stage κ)}
variable {scheduled known finished : List String}

/-! ### Counts and names -/

theorem inCounts_eq_nil_iff :
    inCounts scheduled steps = [] ↔ ∀ s ∈ steps, scheduled.count s.id = 1 := by
  unfold inCounts
  rw [List.filterMap_eq_nil_iff]
  refine forall₂_congr fun s _ => ?_
  rcases scheduled.count s.id with _ | _ | times
  · exact ⟨nofun, nofun⟩
  · exact ⟨fun _ => rfl, fun _ => rfl⟩
  · exact ⟨nofun, nofun⟩

theorem inNames_eq_nil_iff :
    inNames known stages = [] ↔ ∀ id ∈ stages.flatMap Stage.ids, id ∈ known := by
  unfold inNames
  rw [List.flatMap_eq_nil_iff]
  simp only [List.map_eq_nil_iff, List.filter_eq_nil_iff, List.mem_flatMap, Bool.not_eq_true',
    Bool.not_eq_false, List.contains_iff_mem]
  exact ⟨fun h id ⟨stage, hstage, hid⟩ => h stage hstage id hid,
    fun h stage hstage id hid => h id ⟨stage, hstage, hid⟩⟩

/-- A list holds the identities of the steps, each of them once. -/
theorem perm_ids_iff (hnodup : (steps.map (·.id)).Nodup) :
    scheduled.Perm (steps.map (·.id)) ↔
      (∀ s ∈ steps, scheduled.count s.id = 1) ∧ ∀ id ∈ scheduled, id ∈ steps.map (·.id) := by
  constructor
  · intro hperm
    refine ⟨fun s hs => ?_, fun id hid => hperm.subset hid⟩
    rw [hperm.count_eq]
    exact List.count_eq_one_of_mem hnodup (List.mem_map_of_mem hs)
  · rintro ⟨hcount, hsub⟩
    refine List.perm_iff_count.mpr fun id => ?_
    by_cases hid : id ∈ steps.map (·.id)
    · obtain ⟨s, hs, rfl⟩ := List.mem_map.mp hid
      rw [hcount s hs, List.count_eq_one_of_mem hnodup hid]
    · rw [List.count_eq_zero_of_not_mem hid, List.count_eq_zero_of_not_mem fun h => hid (hsub id h)]

/-! ### Order -/

/-- Where identities are distinct, a step is expected to wait for what the step of its identity says
in the list. -/
theorem expected_of_id_eq (hnodup : (steps.map (·.id)).Nodup) {s t : CostedStep κ} (hs : s ∈ steps)
    (hid : t.id = s.id) : expected steps t = s.dependsOn := by
  unfold expected
  cases hfind : steps.reverse.find? fun known => known.id == t.id with
  | none =>
    rw [List.find?_eq_none] at hfind
    exact absurd (beq_iff_eq.mpr hid.symm) (hfind s (List.mem_reverse.mpr hs))
  | some u =>
    have hmem : u ∈ steps := List.mem_reverse.mp (List.mem_of_find?_eq_some hfind)
    have hu := List.find?_some hfind
    rw [beq_iff_eq] at hu
    rw [List.inj_on_of_nodup_map hnodup hmem hs (hu.trans hid)]
    rfl

theorem expected_eq (hnodup : (steps.map (·.id)).Nodup) {s : CostedStep κ} (hs : s ∈ steps) :
    expected steps s = s.dependsOn :=
  expected_of_id_eq hnodup hs rfl

/-- A step that waits for what it is expected to. -/
def asExpected (steps : List (CostedStep κ)) (s : CostedStep κ) : CostedStep κ :=
  { s with dependsOn := expected steps s }

theorem map_id_asExpected (others : List (CostedStep κ)) :
    (others.map (asExpected steps)).map (·.id) = others.map (·.id) :=
  List.map_map

/-- Nothing runs too early in layers, where each step waits for what it is expected to. -/
theorem inOrder_eq_nil_iff {position : Nat} :
    inOrder steps finished position stages = [] ↔
      Layered finished (stages.map fun stage => stage.steps.map (asExpected steps)) := by
  induction stages generalizing finished position with
  | nil => exact ⟨fun _ => trivial, fun _ => rfl⟩
  | cons stage rest ih =>
    unfold inOrder
    rw [List.append_eq_nil_iff, ih, List.map_cons, Layered, map_id_asExpected]
    refine and_congr_left fun _ => ?_
    simp only [List.flatMap_eq_nil_iff, List.map_eq_nil_iff, List.filter_eq_nil_iff,
      List.forall_mem_map, CostedStep.isReady_iff, asExpected, Bool.not_eq_true', Bool.not_eq_false,
      List.contains_iff_mem]

/-- Nothing runs too early where what is expected is in a stage in front. -/
theorem inOrder_nil_eq_nil_iff {position : Nat} :
    inOrder steps [] position stages = [] ↔
      ∀ (i : Nat) (stage : Stage κ), stages[i]? = some stage →
        ∀ s ∈ stage.steps, ∀ d ∈ expected steps s,
          ∃ j < i, ∃ earlier : Stage κ, stages[j]? = some earlier ∧ d ∈ earlier.ids := by
  rw [inOrder_eq_nil_iff, Stage.layered_iff]
  simp only [List.getElem?_map, Option.map_eq_some_iff, forall_exists_index, and_imp,
    forall_apply_eq_imp_iff₂, exists_exists_and_eq_and, List.forall_mem_map,
    map_id_asExpected, List.not_mem_nil, false_or, asExpected, Stage.ids]

/-! ### Stages without faults -/

theorem inCounts_eq_nil (hnodup : (steps.map (·.id)).Nodup)
    (hperm : scheduled.Perm (steps.map (·.id))) : inCounts scheduled steps = [] :=
  inCounts_eq_nil_iff.mpr ((perm_ids_iff hnodup).mp hperm).1

theorem inNames_eq_nil (h : ∀ stage ∈ stages, ∀ id ∈ stage.ids, id ∈ known) :
    inNames known stages = [] := by
  refine inNames_eq_nil_iff.mpr fun id hid => ?_
  obtain ⟨stage, hstage, hid⟩ := List.mem_flatMap.mp hid
  exact h stage hstage id hid

/-- In layers of expected steps nothing runs too early. -/
theorem inOrder_eq_nil (hlayered : Layered finished (stages.map (·.steps)))
    (hexpected : ∀ stage ∈ stages, ∀ s ∈ stage.steps, expected steps s = s.dependsOn)
    (position : Nat) : inOrder steps finished position stages = [] := by
  have hsame : ∀ stage ∈ stages, stage.steps.map (asExpected steps) = stage.steps := by
    intro stage hstage
    refine (List.map_congr_left fun s hs => ?_).trans (List.map_id _)
    unfold asExpected
    rw [hexpected stage hstage s hs]
    rfl
  rw [inOrder_eq_nil_iff, List.map_congr_left hsame]
  exact hlayered

/-- **The check of stages is exact.**  For steps that have identities of their own, it finds nothing
wrong with any stages exactly where the stages hold the identities of the steps, each of them once,
and what a step of the list waits for is in a stage in front of its own. -/
theorem ofStages_eq_nil_iff (hnodup : (steps.map (·.id)).Nodup) (stages : List (Stage κ)) :
    ofStages steps stages = [] ↔
      (stages.flatMap Stage.ids).Perm (steps.map (·.id)) ∧
        ∀ (i : Nat) (stage : Stage κ), stages[i]? = some stage →
          ∀ s ∈ steps, s.id ∈ stage.ids → ∀ d ∈ s.dependsOn,
            ∃ j < i, ∃ earlier : Stage κ, stages[j]? = some earlier ∧ d ∈ earlier.ids := by
  unfold ofStages
  rw [List.append_eq_nil_iff, List.append_eq_nil_iff, inCounts_eq_nil_iff, inNames_eq_nil_iff,
    ← perm_ids_iff hnodup, inOrder_nil_eq_nil_iff]
  refine and_congr_right fun hperm => forall_congr' fun i => forall₂_congr fun stage hi => ?_
  constructor
  · intro h s hs hid d hd
    obtain ⟨t, ht, hid⟩ := List.mem_map.mp hid
    rw [← expected_of_id_eq hnodup hs hid] at hd
    exact h t ht d hd
  · intro h t ht d hd
    -- what runs is a step of the list, if only by its identity
    have hmem : t.id ∈ stage.ids := List.mem_map_of_mem ht
    obtain ⟨s, hs, hid⟩ := List.mem_map.mp
      (hperm.subset (List.mem_flatMap_of_mem (List.mem_of_getElem? hi) hmem))
    rw [expected_of_id_eq hnodup hs hid.symm] at hd
    exact h s hs (hid ▸ hmem) d hd

/-- A step in the stage of the one that it waits for is found, although it no longer says that it
waits. -/
theorem ofStages_together :
    ofStages ([⟨"load", .ofNat 1, []⟩, ⟨"save", .ofNat 1, ["load"]⟩] : List (CostedStep Binary64))
      [⟨0, [⟨"load", .ofNat 1, []⟩, ⟨"save", .ofNat 1, []⟩], .ofNat 1⟩] ≠ [] := by
  intro hvalid
  obtain ⟨-, horder⟩ := (ofStages_eq_nil_iff (by decide) _).mp hvalid
  obtain ⟨j, hj, -⟩ := horder 0 _ rfl ⟨"save", .ofNat 1, ["load"]⟩
    (List.mem_cons_of_mem _ (List.mem_singleton_self _)) (by decide) "load"
    (List.mem_singleton_self _)
  exact Nat.not_lt_zero j hj

end PropertyGraph.StagingFault
