import PropertyGraph.Proofs.Value.Equality
import PropertyGraph.Snapshot.Apply

/-!
# Changing a node field by field

The changes that the fieldwise comparison of two nodes finds lead from the first to a node that is
equal to the second (`foldlM_fieldwise`).  Comparing the nodes the other way round gives the changes
that go back (`fieldwise_inverse`).
-/

namespace PropertyGraph

/-! ### One field -/

theorem propertyOfField?_append (key : String) :
    propertyOfField? ("properties." ++ key) = some key := by
  unfold propertyOfField?
  rw [String.toList_append, if_pos (List.isPrefixOf_iff_prefix.mpr (List.prefix_append _ _))]
  have hdrop : ("properties.".toList ++ key.toList).drop 11 = key.toList :=
    List.drop_left' rfl
  rw [hdrop, String.ofList_toList]

/-- The value, or nothing if it is null. -/
def Value.present? (v : Value) : Option Value := if v.isNull then none else some v

theorem Value.present?_getD {x : Option Value} (h : x ≠ some .null) :
    (x.getD .null).present? = x := by
  cases x with
  | none => rfl
  | some v =>
    cases v with
    | null => exact (h rfl).elim
    | _ => rfl

namespace Node

/-- The properties after one is set; null takes it away. -/
def setProperty (properties : PropertyMap) (key : String) (v : Value) : PropertyMap :=
  if v.isNull then properties.erase key else properties.insert key v

theorem find?_setProperty (properties : PropertyMap) (key : String) (v : Value) (k : String) :
    (setProperty properties key v).find? k = if k = key then v.present? else properties.find? k := by
  unfold setProperty Value.present?
  split_ifs with hnull hk hk
  · rw [SortedMap.find?_erase, if_pos hk]
  · rw [SortedMap.find?_erase, if_neg hk]
  · rw [SortedMap.find?_insert, if_pos hk]
  · rw [SortedMap.find?_insert, if_neg hk]

theorem setField_labels (n : Node) (labels : List String) :
    n.setField "labels" (.list (labels.map Value.string)) = .ok { n with labels := labels } := by
  have hlabels : (labels.map Value.string).filterMap Value.string? = labels := by
    rw [List.filterMap_map]
    exact List.filterMap_some
  unfold setField
  rw [if_pos rfl]
  exact congrArg (fun labels => Except.ok { n with labels := labels }) hlabels

theorem setField_property (n : Node) (key : String) (v : Value) :
    n.setField ("properties." ++ key) v
      = .ok { n with properties := setProperty n.properties key v } := by
  have hfield : "properties." ++ key ≠ "labels" := by
    intro h
    have hchars := congrArg String.toList h
    rw [String.toList_append] at hchars
    cases hchars
  unfold setField
  rw [if_neg hfield, propertyOfField?_append]
  rfl

/-- Setting properties one after the other. -/
theorem foldlM_setField_property (value : String → Value) (keys : List String) (n : Node) :
    keys.foldlM (fun n key => n.setField ("properties." ++ key) (value key)) n
      = .ok { n with
          properties := keys.foldl (fun ps key => setProperty ps key (value key)) n.properties } := by
  induction keys generalizing n with
  | nil => rfl
  | cons key rest ih =>
    rw [List.foldlM_cons, setField_property]
    exact ih _

end Node

/-! ### All fields -/

namespace NodeComparator

variable (config : DiffConfig) (before after : Node)

/-- The keys of the properties that differ and are not ignored. -/
def changedKeys : List String :=
  ((before.properties.union after.properties).keys.filter fun key =>
    !config.ignoreFields.contains key).filter fun key =>
      !((before.property? key).getD .null).equals ((after.property? key).getD .null)

theorem mem_changedKeys {key : String} :
    key ∈ changedKeys config before after ↔
      ((before.property? key).isSome ∨ (after.property? key).isSome) ∧
        key ∉ config.ignoreFields ∧
        ((before.property? key).getD .null).equals ((after.property? key).getD .null) = false := by
  have hunion : key ∈ (before.properties.union after.properties).keys ↔
      (before.property? key).isSome ∨ (after.property? key).isSome := by
    rw [SortedMap.mem_keys_iff, SortedMap.find?_union, Option.isSome_or, Bool.or_eq_true, or_comm]
    rfl
  unfold changedKeys
  simp only [List.mem_filter, hunion, Bool.not_eq_true', List.contains_eq_mem, decide_eq_false_iff_not,
    and_assoc]

theorem fieldwise_eq :
    fieldwise config before after = labelChanges before after ++
      (changedKeys config before after).map fun key =>
        ⟨"properties." ++ key, (before.property? key).getD .null,
          (after.property? key).getD .null⟩ := by
  unfold fieldwise changedKeys
  dsimp only
  refine congrArg (labelChanges before after ++ ·) ?_
  induction (before.properties.union after.properties).keys.filter fun key =>
      !config.ignoreFields.contains key with
  | nil => rfl
  | cons key rest ih =>
    rw [List.filterMap_cons, List.filter_cons, ih]
    unfold propertyChange?
    dsimp only
    cases ((before.property? key).getD .null).equals ((after.property? key).getD .null) <;> rfl

theorem sameLabels_comm (a b : List String) : sameLabels a b = sameLabels b a := Bool.and_comm ..

theorem changedKeys_comm : changedKeys config before after = changedKeys config after before := by
  have hkeys : (before.properties.union after.properties).keys
      = (after.properties.union before.properties).keys := by
    refine SortedMap.keys_eq_of_isSome_eq fun key => ?_
    rw [SortedMap.find?_union, SortedMap.find?_union, Option.isSome_or, Option.isSome_or,
      Bool.or_comm]
  unfold changedKeys
  rw [hkeys]
  refine List.filter_congr fun key _ => congrArg not ?_
  exact Value.equals_comm _ _

/-- The changes that go back are those of the comparison the other way round. -/
theorem fieldwise_inverse :
    (fieldwise config before after).map FieldChange.inverse = fieldwise config after before := by
  rw [fieldwise_eq, fieldwise_eq, List.map_append, List.map_map, changedKeys_comm]
  refine congrArg₂ (· ++ ·) ?_ rfl
  unfold labelChanges
  rw [sameLabels_comm]
  split_ifs <;> rfl

/-- A node in which what differs between two others is as in the second. -/
def patched (n : Node) : Node where
  id := n.id
  labels := if sameLabels before.labels after.labels then n.labels else after.labels
  properties := (changedKeys config before after).foldl
    (fun ps key => Node.setProperty ps key ((after.property? key).getD .null)) n.properties

theorem foldlM_fieldwise (n : Node) :
    (fieldwise config before after).foldlM (fun n c => n.setField c.field c.after) n
      = .ok (patched config before after n) := by
  have hlabels : (labelChanges before after).foldlM (fun n c => n.setField c.field c.after) n
      = .ok { n with
          labels := if sameLabels before.labels after.labels then n.labels else after.labels } := by
    unfold labelChanges
    split_ifs
    · rfl
    · rw [List.foldlM_cons, Node.setField_labels]
      rfl
  rw [fieldwise_eq, List.foldlM_append, hlabels]
  exact (List.foldlM_map ..).trans
    (Node.foldlM_setField_property (fun key => (after.property? key).getD .null) _ _)

theorem property?_patched (hafter : ∀ key, after.property? key ≠ some .null) (n : Node)
    (key : String) :
    (patched config before after n).property? key
      = if key ∈ changedKeys config before after then after.property? key else n.property? key := by
  have hset : ∀ key ∈ changedKeys config before after, ∀ (ps : PropertyMap) k,
      (Node.setProperty ps key ((after.property? key).getD .null)).find? k
        = if k = key then after.property? k else ps.find? k := by
    intro key _ ps k
    rw [Node.find?_setProperty, Value.present?_getD (hafter key)]
    split_ifs with hk
    · rw [hk]
    · rfl
  refine (SortedMap.find?_foldl id (fun k => after.property? k) hset n.properties key).trans ?_
  rw [List.map_id]
  rfl

variable {before after}

/-- The changes that go back restore the node. -/
theorem patched_patched (hbefore : ∀ key, before.property? key ≠ some .null)
    (hafter : ∀ key, after.property? key ≠ some .null) :
    patched config after before (patched config before after before) = before := by
  have hlabels : (patched config after before (patched config before after before)).labels
      = before.labels := by
    unfold patched
    dsimp only
    rw [sameLabels_comm]
    split_ifs <;> rfl
  have hproperties : (patched config after before (patched config before after before)).properties
      = before.properties := by
    refine SortedMap.ext_find? fun key => ?_
    refine (property?_patched config after before hbefore _ key).trans ?_
    rw [property?_patched config before after hafter, changedKeys_comm]
    split_ifs <;> rfl
  calc patched config after before (patched config before after before)
      = ⟨before.id, (patched config after before (patched config before after before)).labels,
          (patched config after before (patched config before after before)).properties⟩ := rfl
    _ = before := by rw [hlabels, hproperties]

end NodeComparator

/-! ### Equal nodes -/

/-- The nodes have the same id, the same labels, and properties of equal values. -/
structure Node.Same (m n : Node) : Prop where
  id : m.id = n.id
  labels : m.labels = n.labels
  properties : Value.equalsProperties m.properties n.properties

theorem Differ.rel_of_sameMetadata {x y : Option Value} (h : Differ.sameMetadata x y = true) :
    Option.Rel Value.Equal x y := by
  cases x <;> cases y
  · exact .none
  · cases h
  · cases h
  · exact .some h

namespace NodeComparator

/-- What has to hold of two versions of a node so that their comparison tells all that is
different. -/
structure Faithful (config : DiffConfig) (before after : Node) : Prop where
  /-- The order of labels and repetitions make no difference. -/
  labels : sameLabels before.labels after.labels → before.labels = after.labels
  /-- Properties that are ignored do not differ. -/
  ignored : ∀ key ∈ config.ignoreFields,
    Differ.sameMetadata (before.property? key) (after.property? key)

/-- The changes of a comparison lead to a node equal to the second. -/
theorem patched_same {config : DiffConfig} {before after : Node} (hid : before.id = after.id)
    (h : Faithful config before after) (hbefore : ∀ key, before.property? key ≠ some .null)
    (hafter : ∀ key, after.property? key ≠ some .null)
    (hfree : Value.NaNFreeProperties after.properties) :
    (patched config before after before).Same after := by
  refine ⟨hid, ?_, Value.equalsProperties_of_rel fun key => ?_⟩
  · unfold patched
    dsimp only
    split_ifs with hsame
    · exact h.labels hsame
    · rfl
  · show Option.Rel _ ((patched config before after before).property? key) (after.property? key)
    rw [property?_patched config before after hafter]
    split_ifs with hchanged
    · exact Value.rel_self fun v hv => Value.equals_self (hfree.find? hv)
    · -- what is not reported is ignored, or equal
      by_cases hignored : key ∈ config.ignoreFields
      · exact Differ.rel_of_sameMetadata (h.ignored key hignored)
      · refine Value.rel_of_equals_getD (hbefore key) (hafter key) ?_
        by_contra hdiffers
        rw [Bool.not_eq_true] at hdiffers
        refine hchanged ((mem_changedKeys ..).mpr ⟨?_, hignored, hdiffers⟩)
        by_contra hnone
        rw [not_or, Option.not_isSome_iff_eq_none, Option.not_isSome_iff_eq_none] at hnone
        rw [hnone.1, hnone.2] at hdiffers
        cases hdiffers

end NodeComparator

end PropertyGraph
