import Mathlib.Data.List.Forall2
import PropertyGraph.Proofs.Collection.SortedMap
import PropertyGraph.Proofs.Numeric.Order
import PropertyGraph.Value.Order

/-!
# Equality of values

`Value.equals` is symmetric, and a value is equal to itself if there is no NaN in it.  It is not
identity: the two zeros are equal.  Nothing else is: values without NaN are equal exactly where
`Value.unsignedZeros` makes them identical (`Value.equals_iff`).
-/

namespace PropertyGraph

namespace Binary64

theorem equals_self {x : Binary64} (h : x.isNaN = false) : x.equals x = true := by
  unfold equals partialCompare
  simp [h]

theorem equals_comm (x y : Binary64) : x.equals y = y.equals x := by
  unfold equals partialCompare
  rw [Bool.or_comm]
  split_ifs
  · rfl
  · have hswap : compare x.rank y.rank = (compare y.rank x.rank).swap := Std.OrientedCmp.eq_swap
    rw [hswap]
    cases compare y.rank x.rank <;> rfl

/-- The number, with the positive zero in place of the negative one. -/
def unsignedZero (x : Binary64) : Binary64 := if x.isZero then zero else x

theorem rank_unsignedZero (x : Binary64) : x.unsignedZero.rank = x.rank := by
  unfold unsignedZero
  split
  · next hzero => exact (rank_eq_zero_iff.mpr hzero).symm
  · rfl

theorem isNaN_unsignedZero (x : Binary64) : x.unsignedZero.isNaN = x.isNaN := by
  unfold unsignedZero
  split
  · next hzero =>
    have hmagnitude : x.magnitude = 0 := of_decide_eq_true hzero
    unfold isNaN
    rw [hmagnitude]
    rfl
  · rfl

/-- Numbers of equal value differ in the sign of zero only. -/
theorem equals_iff {x y : Binary64} (hx : x.isNaN = false) :
    x.equals y = true ↔ x.unsignedZero = y.unsignedZero := by
  constructor
  · intro h
    unfold equals partialCompare at h
    by_cases hy : y.isNaN = true
    · simp [hy] at h
    · have hrank : x.rank = y.rank := by simpa [hx, hy] using h
      by_cases hzero : x.rank = 0
      · have hzero' : y.rank = 0 := hrank ▸ hzero
        unfold unsignedZero
        rw [if_pos (rank_eq_zero_iff.mp hzero), if_pos (rank_eq_zero_iff.mp hzero')]
      · rw [eq_of_rank_eq hzero hrank]
  · intro h
    have hself : x.unsignedZero.equals y.unsignedZero = true := by
      rw [← h]
      apply equals_self
      rw [isNaN_unsignedZero, hx]
    unfold equals partialCompare at hself ⊢
    rwa [isNaN_unsignedZero, isNaN_unsignedZero, rank_unsignedZero, rank_unsignedZero] at hself

end Binary64

namespace Value

mutual

/-- No floating-point number in the value is NaN. -/
def isNaNFree : Value → Bool
  | .float x => !x.isNaN
  | .list items => isNaNFreeItems items
  | .map entries => isNaNFreeEntries entries
  | _ => true

def isNaNFreeItems : List Value → Bool
  | [] => true
  | v :: rest => isNaNFree v && isNaNFreeItems rest

def isNaNFreeEntries : List (String × Value) → Bool
  | [] => true
  | (_, v) :: rest => isNaNFree v && isNaNFreeEntries rest

end

mutual

theorem equals_self : ∀ {v : Value}, v.isNaNFree = true → v.equals v = true
  | .null, _ => rfl
  | .bool _, _ => beq_self_eq_true _
  | .int _, _ => beq_self_eq_true _
  | .float _, h => Binary64.equals_self ((Bool.not_eq_true' _).mp h)
  | .string _, _ => beq_self_eq_true _
  | .bytes _, _ => beq_self_eq_true _
  | .list _, h => equalsItems_self h
  | .map _, h => equalsEntries_self h
  | .dateTime _, _ => beq_self_eq_true _

theorem equalsItems_self :
    ∀ {items : List Value}, isNaNFreeItems items = true → equalsItems items items = true
  | [], _ => rfl
  | _ :: _, h => by
    obtain ⟨hv, hrest⟩ := Bool.and_eq_true_iff.mp h
    exact Bool.and_eq_true_iff.mpr ⟨equals_self hv, equalsItems_self hrest⟩

theorem equalsEntries_self :
    ∀ {entries : List (String × Value)}, isNaNFreeEntries entries = true →
      equalsEntries entries entries = true
  | [], _ => rfl
  | _ :: _, h => by
    obtain ⟨hv, hrest⟩ := Bool.and_eq_true_iff.mp h
    rw [equalsEntries, beq_self_eq_true, equals_self hv, equalsEntries_self hrest]
    rfl

end

mutual

theorem equals_comm (v w : Value) : v.equals w = w.equals v := by
  cases v with
  | null => cases w <;> rfl
  | bool a =>
    cases w with
    | bool b => exact BEq.comm
    | _ => rfl
  | int a =>
    cases w with
    | int b => exact BEq.comm
    | _ => rfl
  | float a =>
    cases w with
    | float b => exact Binary64.equals_comm a b
    | _ => rfl
  | string a =>
    cases w with
    | string b => exact BEq.comm
    | _ => rfl
  | bytes a =>
    cases w with
    | bytes b => exact BEq.comm
    | _ => rfl
  | list vs =>
    cases w with
    | list ws => exact equalsItems_comm vs ws
    | _ => rfl
  | map vs =>
    cases w with
    | map ws => exact equalsEntries_comm vs ws
    | _ => rfl
  | dateTime a =>
    cases w with
    | dateTime b => exact BEq.comm
    | _ => rfl

theorem equalsItems_comm (vs ws : List Value) : equalsItems vs ws = equalsItems ws vs := by
  cases vs with
  | nil => cases ws <;> rfl
  | cons v vs =>
    cases ws with
    | nil => rfl
    | cons w ws => exact congrArg₂ and (equals_comm v w) (equalsItems_comm vs ws)

theorem equalsEntries_comm (vs ws : List (String × Value)) :
    equalsEntries vs ws = equalsEntries ws vs := by
  cases vs with
  | nil => cases ws <;> rfl
  | cons v vs =>
    cases ws with
    | nil => rfl
    | cons w ws =>
      have hkeys : (v.1 == w.1) = (w.1 == v.1) := BEq.comm
      exact congrArg₂ and (congrArg₂ and hkeys (equals_comm v.2 w.2)) (equalsEntries_comm vs ws)

end

theorem equalsProperties_comm (ps qs : PropertyMap) :
    equalsProperties ps qs = equalsProperties qs ps := equalsEntries_comm _ _

/-! ### Signs of zeros -/

mutual

/-- The value with positive zeros in place of negative ones. -/
def unsignedZeros : Value → Value
  | .float x => .float x.unsignedZero
  | .list items => .list (unsignedZerosItems items)
  | .map entries => .map (unsignedZerosEntries entries)
  | v => v

def unsignedZerosItems : List Value → List Value
  | [] => []
  | v :: rest => unsignedZeros v :: unsignedZerosItems rest

def unsignedZerosEntries : List (String × Value) → List (String × Value)
  | [] => []
  | (k, v) :: rest => (k, unsignedZeros v) :: unsignedZerosEntries rest

end

mutual

/-- Values without NaN that are equal differ in the signs of zeros only. -/
theorem equals_iff {v w : Value} (hv : v.isNaNFree = true) :
    v.equals w = true ↔ v.unsignedZeros = w.unsignedZeros := by
  cases v with
  | float x =>
    have hx : x.isNaN = false := (Bool.not_eq_true' _).mp hv
    cases w with
    | float y => simpa [equals, unsignedZeros] using Binary64.equals_iff hx
    | _ => simp [equals, unsignedZeros]
  | list vs =>
    cases w with
    | list ws =>
      have hitems : equalsItems vs ws = true ↔ unsignedZerosItems vs = unsignedZerosItems ws :=
        equalsItems_iff hv
      simpa [equals, unsignedZeros] using hitems
    | _ => simp [equals, unsignedZeros]
  | map vs =>
    cases w with
    | map ws =>
      have hentries : equalsEntries vs ws = true ↔
          unsignedZerosEntries vs = unsignedZerosEntries ws := equalsEntries_iff hv
      simpa [equals, unsignedZeros] using hentries
    | _ => simp [equals, unsignedZeros]
  | _ => cases w <;> simp [equals, unsignedZeros]

theorem equalsItems_iff {items items' : List Value} (h : isNaNFreeItems items = true) :
    equalsItems items items' = true ↔ unsignedZerosItems items = unsignedZerosItems items' := by
  cases items with
  | nil => cases items' <;> simp [equalsItems, unsignedZerosItems]
  | cons v rest =>
    obtain ⟨hv, hrest⟩ := Bool.and_eq_true_iff.mp h
    cases items' with
    | nil => simp [equalsItems, unsignedZerosItems]
    | cons w rest' =>
      simp only [equalsItems, unsignedZerosItems, Bool.and_eq_true, List.cons.injEq]
      rw [equals_iff hv, equalsItems_iff hrest]

theorem equalsEntries_iff {entries entries' : List (String × Value)}
    (h : isNaNFreeEntries entries = true) :
    equalsEntries entries entries' = true ↔
      unsignedZerosEntries entries = unsignedZerosEntries entries' := by
  cases entries with
  | nil => cases entries' <;> simp [equalsEntries, unsignedZerosEntries]
  | cons e rest =>
    obtain ⟨hv, hrest⟩ := Bool.and_eq_true_iff.mp h
    cases entries' with
    | nil => simp [equalsEntries, unsignedZerosEntries]
    | cons e' rest' =>
      simp only [equalsEntries, unsignedZerosEntries, Bool.and_eq_true, List.cons.injEq,
        Prod.mk.injEq, beq_iff_eq]
      rw [equals_iff hv, equalsEntries_iff hrest]

end

/-! ### Equal properties -/

/-- The program takes the values to be equal. -/
def Equal (v w : Value) : Prop := v.equals w = true

/-- Entries with the same keys and equal values. -/
theorem equalsEntries_of_forall₂ {es es' : List (String × Value)}
    (h : List.Forall₂ (fun e e' => e.1 = e'.1 ∧ e.2.Equal e'.2) es es') :
    equalsEntries es es' = true := by
  induction h with
  | nil => rfl
  | cons hhead _ ih =>
    have hvalues := hhead.2
    unfold Equal at hvalues
    rw [equalsEntries, hhead.1, hvalues, ih, beq_self_eq_true]
    rfl

/-- Property maps in which every key is looked up alike are equal. -/
theorem equalsProperties_of_rel {ps qs : PropertyMap}
    (h : ∀ key, Option.Rel Equal (ps.find? key) (qs.find? key)) :
    equalsProperties ps qs = true := equalsEntries_of_forall₂ (SortedMap.forall₂_entries h)

/-- Equal maps of properties are looked up alike at every key. -/
theorem find?_of_equalsEntries {es es' : List (String × Value)} (h : equalsEntries es es' = true)
    (key : String) : Option.Rel Equal (Entries.find? key es) (Entries.find? key es') := by
  induction es generalizing es' with
  | nil =>
    cases es' with
    | nil => exact .none
    | cons => cases h
  | cons e rest ih =>
    cases es' with
    | nil => cases h
    | cons e' rest' =>
      simp only [equalsEntries, Bool.and_eq_true, beq_iff_eq] at h
      obtain ⟨⟨hkey, hvalue⟩, hrest⟩ := h
      unfold Entries.find?
      rw [hkey]
      split
      · exact .some hvalue
      · exact ih hrest

theorem equalsProperties_iff_rel {ps qs : PropertyMap} :
    equalsProperties ps qs = true ↔ ∀ key, Option.Rel Equal (ps.find? key) (qs.find? key) :=
  ⟨find?_of_equalsEntries, equalsProperties_of_rel⟩

/-! ### Values that may be absent -/

theorem rel_self {x : Option Value} (h : ∀ v, x = some v → v.Equal v) :
    Option.Rel Equal x x := by
  cases x with
  | none => exact .none
  | some v => exact .some (h v rfl)

/-- Values that are not null are equal if they are equal with null in place of what is absent. -/
theorem rel_of_equals_getD {x y : Option Value} (hx : x ≠ some .null) (hy : y ≠ some .null)
    (h : (x.getD .null).equals (y.getD .null) = true) :
    Option.Rel Equal x y := by
  cases x with
  | none =>
    cases y with
    | none => exact .none
    | some w => cases w <;> first | exact (hy rfl).elim | cases h
  | some v =>
    cases y with
    | none => cases v <;> first | exact (hx rfl).elim | cases h
    | some w => exact .some h

/-- Values that may be absent are equal if they differ in the signs of zeros only. -/
theorem rel_iff {x y : Option Value} (hx : ∀ v, x = some v → v.isNaNFree = true) :
    Option.Rel Equal x y ↔ x.map unsignedZeros = y.map unsignedZeros := by
  cases x with
  | none =>
    cases y with
    | none => exact iff_of_true .none rfl
    | some w => exact iff_of_false nofun nofun
  | some v =>
    cases y with
    | none => exact iff_of_false nofun nofun
    | some w =>
      have hv : v.isNaNFree = true := hx v rfl
      constructor
      · intro h
        cases h with
        | some h => exact congrArg some ((equals_iff hv).mp h)
      · intro h
        exact .some ((equals_iff hv).mpr (Option.some.inj h))

/-- No value of the properties has NaN in it. -/
def NaNFreeProperties (ps : PropertyMap) : Prop := isNaNFreeEntries ps.entries = true

theorem isNaNFree_of_mem {es : List (String × Value)} (h : isNaNFreeEntries es = true)
    {e : String × Value} (he : e ∈ es) : e.2.isNaNFree = true := by
  induction es with
  | nil => exact (List.not_mem_nil he).elim
  | cons first rest ih =>
    obtain ⟨hfirst, hrest⟩ := Bool.and_eq_true_iff.mp h
    rcases List.mem_cons.mp he with rfl | he
    · exact hfirst
    · exact ih hrest he

theorem NaNFreeProperties.find? {ps : PropertyMap} (h : NaNFreeProperties ps) {key : String}
    {v : Value} (hv : ps.find? key = some v) : v.isNaNFree = true :=
  isNaNFree_of_mem h (SortedMap.find?_eq_some_iff.mp hv)

end Value

end PropertyGraph
