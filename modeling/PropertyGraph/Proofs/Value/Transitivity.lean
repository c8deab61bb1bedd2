import PropertyGraph.Proofs.Numeric.Rounding
import PropertyGraph.Proofs.Value.Places

/-!
# Where sorting orders values

The comparison of sorting is reversed when its values are swapped, and it is transitive but for some
triples of numbers.  `Value.sortCompare_isLE_trans_iff` tells which: those that are `Tangled`.  Some
of them have NaN among them, which ties with every floating-point number and goes by its name with
integers.  The others are two integers on both sides of a floating-point number that both round to.
Rounding keeps the order of integers (`Binary64.rank_ofInt_mono`), so nothing else goes wrong.

Of values that are not all numbers, sorting does not look at the numbers, and `roughCompare` is the
order that is left then.
-/

namespace PropertyGraph

theorem Binary64.partialCompare_eq_some_iff {x y : Binary64} {o : Ordering} :
    x.partialCompare y = some o ↔
      x.isNaN = false ∧ y.isNaN = false ∧ compare x.rank y.rank = o := by
  unfold partialCompare
  cases x.isNaN <;> cases y.isNaN <;> simp

/-- The comparison of two numbers, or another one where there is NaN. -/
theorem Binary64.isLE_getD_partialCompare (x y : Binary64) (o : Ordering) :
    ((x.partialCompare y).getD o).isLE ↔
      (x.isNaN = false ∧ y.isNaN = false ∧ x.rank ≤ y.rank) ∨
        (x.isNaN = true ∨ y.isNaN = true) ∧ o.isLE := by
  unfold partialCompare
  cases x.isNaN <;> cases y.isNaN <;> simp [Std.isLE_compare]

namespace Value

/-- Values of which the first does not go after the second and the second not after the third, but
the first goes after the third. -/
inductive Tangled : Value → Value → Value → Prop where
  /-- NaN ties with the larger floating-point number, and it does not go after the smaller one. -/
  | aroundNaN {x z : Binary64} {w : Value} : z.isNaN = true →
    (Value.float x).compare? w = some .gt → Tangled (.float x) (.float z) w
  /-- A floating-point number ties with NaN, which goes before all integers. -/
  | beforeNaN {n : Int64} {x z : Binary64} {o : Ordering} : z.isNaN = true →
    (Value.int n).compare? (.float x) = some o → o.isLE → Tangled (.int n) (.float x) (.float z)
  /-- Different integers are rounded to the number that they are compared with. -/
  | rounded {m n : Int64} {x : Binary64} : n < m → (Value.int m).compare? (.float x) = some .eq →
    (Value.float x).compare? (.int n) = some .eq → Tangled (.int m) (.float x) (.int n)

/-! ### Values that are not all numbers -/

/-- The place of a value without a look at its number. -/
def roughPlace (v : Value) : Place := if v.isNumeric then Place.ofKind "FLOAT" else v.place

/-- The order of sorting without a look at the numbers. -/
def roughCompare : Value → Value → Ordering :=
  compareLex (compareOn isNull) (compareOn roughPlace)

instance : Std.TransCmp roughCompare :=
  inferInstanceAs (Std.TransCmp (compareLex (compareOn isNull) (compareOn roughPlace)))

theorem kind_roughPlace (v : Value) : v.roughPlace.kind = v.place.kind := by
  unfold roughPlace
  cases v <;> rfl

theorem isNumeric_of_kind_eq {v w : Value} (h : v.place.kind = w.place.kind)
    (hv : v.isNumeric = true) : w.isNumeric = true := by
  apply isNumeric_of_kind
  rw [← h, place_of_isNumeric hv]
  rfl

theorem isNumeric_of_roughCompare {v w : Value} (h : roughCompare v w = .eq)
    (hv : v.isNumeric = true) : w.isNumeric = true := by
  have hplace : v.roughPlace = w.roughPlace :=
    Std.LawfulEqOrd.eq_of_compare (Ordering.then_eq_eq.mp h).2
  refine isNumeric_of_kind_eq ?_ hv
  rw [← kind_roughPlace v, hplace, kind_roughPlace]

theorem roughCompare_of_isNumeric {v w : Value} (hv : v.isNumeric = true)
    (hw : w.isNumeric = true) : roughCompare v w = .eq := by
  have hnull : ∀ u : Value, u.isNumeric = true → u.isNull = false := by
    intro u hu
    cases u <;> first | rfl | cases hu
  show (compare v.isNull w.isNull).then (compare v.roughPlace w.roughPlace) = .eq
  rw [hnull v hv, hnull w hw, roughPlace, roughPlace, if_pos hv, if_pos hw]
  exact Std.ReflOrd.compare_self

theorem orderly_of_not_isNumeric {v : Value} (h : ¬ v.isNumeric = true) : v.Orderly := by
  cases v <;> trivial

/-- Values of which neither is null go by their places without a look at the numbers. -/
theorem sortCompare_eq_compare_roughPlace {v w : Value} (hv : v.isNull = false)
    (hw : w.isNull = false) (h : ¬ (v.isNumeric = true ∧ w.isNumeric = true)) :
    v.sortCompare w = compare v.roughPlace w.roughPlace := by
  by_cases hkind : v.place.kind = w.place.kind
  · -- values of one kind are both numbers or both not
    have hv' : ¬ v.isNumeric = true := fun hnum => h ⟨hnum, isNumeric_of_kind_eq hkind hnum⟩
    have hw' : ¬ w.isNumeric = true := fun hnum => h ⟨isNumeric_of_kind_eq hkind.symm hnum, hnum⟩
    rw [sortCompare_eq (orderly_of_not_isNumeric hv') (orderly_of_not_isNumeric hw') hv hw,
      roughPlace, roughPlace, if_neg hv', if_neg hw']
  · have hrough : v.roughPlace.kind ≠ w.roughPlace.kind := by
      rwa [kind_roughPlace, kind_roughPlace]
    unfold sortCompare
    rw [hv, hw, compare?_of_kind_ne hkind, Place.compare_of_kind_ne hrough, kind_roughPlace,
      kind_roughPlace, ← compare_typeName hkind]
    rfl

/-- Values that are not both numbers are sorted without a look at the numbers. -/
theorem sortCompare_eq_roughCompare {v w : Value}
    (h : ¬ (v.isNumeric = true ∧ w.isNumeric = true)) : v.sortCompare w = roughCompare v w := by
  have hnull : ∀ u : Value, u.isNull = true → u = .null := by
    intro u hu
    cases u <;> first | rfl | cases hu
  show v.sortCompare w
    = (compare v.isNull w.isNull).then (compare v.roughPlace w.roughPlace)
  cases hv : v.isNull with
  | true =>
    cases hw : w.isNull with
    | true =>
      rw [hnull v hv, hnull w hw]
      decide
    | false =>
      unfold sortCompare
      rw [hv, hw]
      rfl
  | false =>
    cases hw : w.isNull with
    | true =>
      unfold sortCompare
      rw [hv, hw]
      rfl
    | false => exact sortCompare_eq_compare_roughPlace hv hw h

/-- Where not all three values are numbers, sorting is transitive. -/
theorem sortCompare_isLE_trans {a b c : Value}
    (h : ¬ (a.isNumeric = true ∧ b.isNumeric = true ∧ c.isNumeric = true))
    (hab : (a.sortCompare b).isLE) (hbc : (b.sortCompare c).isLE) : (a.sortCompare c).isLE := by
  have hrough : ∀ {v w : Value}, (v.sortCompare w).isLE → (roughCompare v w).isLE := by
    intro v w hvw
    by_cases hnumeric : v.isNumeric = true ∧ w.isNumeric = true
    · rw [roughCompare_of_isNumeric hnumeric.1 hnumeric.2]
      rfl
    · rwa [sortCompare_eq_roughCompare hnumeric] at hvw
  have hac : (roughCompare a c).isLE := Std.TransCmp.isLE_trans (hrough hab) (hrough hbc)
  by_cases hnumeric : a.isNumeric = true ∧ c.isNumeric = true
  · -- the value between two numbers would be a number
    have hca : (roughCompare c a).isLE := by
      rw [roughCompare_of_isNumeric hnumeric.2 hnumeric.1]
      rfl
    have hba : (roughCompare b a).isLE := Std.TransCmp.isLE_trans (hrough hbc) hca
    have heq : roughCompare a b = .eq := Std.OrientedCmp.isLE_antisymm (hrough hab) hba
    exact absurd ⟨hnumeric.1, isNumeric_of_roughCompare heq hnumeric.1, hnumeric.2⟩ h
  · rwa [sortCompare_eq_roughCompare hnumeric]

/-! ### Numbers -/

section Numbers

variable {m n : Int64} {x y z : Binary64}

theorem isLE_int_int : ((Value.int m).sortCompare (.int n)).isLE ↔ m.toInt ≤ n.toInt := by
  show (compare m n).isLE ↔ _
  rw [Std.isLE_compare, Int64.le_iff_toInt_le]

theorem compare?_int_float {o : Ordering} : (Value.int n).compare? (.float x) = some o ↔
    x.isNaN = false ∧ compare (Binary64.ofInt n.toInt).rank x.rank = o := by
  refine Binary64.partialCompare_eq_some_iff.trans ?_
  rw [Binary64.isNaN_ofInt, eq_self, true_and]

theorem compare?_float_int {o : Ordering} : (Value.float x).compare? (.int n) = some o ↔
    x.isNaN = false ∧ compare x.rank (Binary64.ofInt n.toInt).rank = o := by
  refine Binary64.partialCompare_eq_some_iff.trans ?_
  rw [Binary64.isNaN_ofInt, eq_self, true_and]

theorem isLE_int_float : ((Value.int n).sortCompare (.float x)).isLE ↔
    x.isNaN = false ∧ (Binary64.ofInt n.toInt).rank ≤ x.rank := by
  have hnames : (compare "INTEGER" "FLOAT").isLE = false := by decide
  refine (Binary64.isLE_getD_partialCompare (Binary64.ofInt n.toInt) x _).trans ?_
  show _ ∨ _ ∧ (compare "INTEGER" "FLOAT").isLE = true ↔ _
  simp [Binary64.isNaN_ofInt, hnames]

theorem isLE_float_int : ((Value.float x).sortCompare (.int n)).isLE ↔
    x.isNaN = true ∨ x.rank ≤ (Binary64.ofInt n.toInt).rank := by
  have hnames : (compare "FLOAT" "INTEGER").isLE = true := by decide
  refine (Binary64.isLE_getD_partialCompare x (Binary64.ofInt n.toInt) _).trans ?_
  show _ ∨ _ ∧ (compare "FLOAT" "INTEGER").isLE = true ↔ _
  cases x.isNaN <;> simp [Binary64.isNaN_ofInt, hnames]

theorem isLE_float_float : ((Value.float x).sortCompare (.float y)).isLE ↔
    x.isNaN = true ∨ y.isNaN = true ∨ x.rank ≤ y.rank := by
  have hnames : (compare "FLOAT" "FLOAT").isLE = true := by decide
  refine (Binary64.isLE_getD_partialCompare x y _).trans ?_
  show _ ∨ _ ∧ (compare "FLOAT" "FLOAT").isLE = true ↔ _
  rw [hnames]
  cases x.isNaN <;> cases y.isNaN <;> simp

end Numbers

theorem compare?_swap {v w : Value} (hv : v.isNumeric = true) (hw : w.isNumeric = true) :
    w.compare? v = (v.compare? w).map Ordering.swap := by
  have hpartial : ∀ x y : Binary64,
      y.partialCompare x = (x.partialCompare y).map Ordering.swap := by
    intro x y
    unfold Binary64.partialCompare
    rw [Bool.or_comm, apply_ite (Option.map Ordering.swap)]
    exact if_congr Iff.rfl rfl (congrArg some Std.OrientedOrd.eq_swap)
  match v, w with
  | .int m, .int n => exact congrArg some Std.OrientedOrd.eq_swap
  | .int m, .float y => exact hpartial _ _
  | .float x, .int n => exact hpartial _ _
  | .float x, .float y => exact hpartial _ _

/-- Of three numbers, sorting is transitive unless they are tangled. -/
theorem tangled_of_isNumeric {a b c : Value} (ha : a.isNumeric = true) (hb : b.isNumeric = true)
    (hc : c.isNumeric = true) (hab : (a.sortCompare b).isLE) (hbc : (b.sortCompare c).isLE)
    (hac : ¬ (a.sortCompare c).isLE) : Tangled a b c := by
  match a, b, c with
  | .int k, .int m, .int n =>
    rw [isLE_int_int] at hab hbc hac
    omega
  | .int k, .int m, .float z =>
    rw [isLE_int_int] at hab
    rw [isLE_int_float] at hbc hac
    exact (hac ⟨hbc.1, (Binary64.rank_ofInt_mono hab).trans hbc.2⟩).elim
  | .int k, .float y, .int n =>
    rw [isLE_int_float] at hab
    rw [isLE_float_int, hab.1] at hbc
    rw [isLE_int_int, not_le] at hac
    have hyn := hbc.resolve_left Bool.false_ne_true
    -- the integers are rounded in their order, so both to the number between them
    have hround := Binary64.rank_ofInt_mono hac.le
    refine .rounded (Int64.lt_iff_toInt_lt.mpr hac)
      (compare?_int_float.mpr ⟨hab.1, ?_⟩) (compare?_float_int.mpr ⟨hab.1, ?_⟩)
    · exact Std.compare_eq_iff_eq.mpr (by omega)
    · exact Std.compare_eq_iff_eq.mpr (by omega)
  | .int k, .float y, .float z =>
    rw [isLE_int_float] at hab hac
    rw [isLE_float_float, hab.1] at hbc
    have hz : z.isNaN = true := by
      by_contra hz
      have hyz := (hbc.resolve_left Bool.false_ne_true).resolve_left hz
      exact hac ⟨Bool.eq_false_of_not_eq_true hz, hab.2.trans hyz⟩
    exact .beforeNaN hz (compare?_int_float.mpr ⟨hab.1, rfl⟩) (Std.isLE_compare.mpr hab.2)
  | .float x, .int m, .int n =>
    rw [isLE_float_int] at hab hac
    rw [isLE_int_int] at hbc
    exact (hac (hab.imp_right fun hxm => hxm.trans (Binary64.rank_ofInt_mono hbc))).elim
  | .float x, .int m, .float z =>
    rw [isLE_float_int] at hab
    rw [isLE_int_float] at hbc
    rw [isLE_float_float] at hac
    exact (hac (hab.imp_right fun hxm => .inr (hxm.trans hbc.2))).elim
  | .float x, .float y, .int n =>
    rw [isLE_float_int, not_or, Bool.not_eq_true, not_le] at hac
    rw [isLE_float_float, hac.1] at hab
    rw [isLE_float_int] at hbc
    have hy : y.isNaN = true := by
      by_contra hy
      have hxy := (hab.resolve_left Bool.false_ne_true).resolve_left hy
      exact absurd (hxy.trans (hbc.resolve_left hy)) hac.2.not_ge
    exact .aroundNaN hy (compare?_float_int.mpr ⟨hac.1, Std.compare_eq_gt.mpr hac.2⟩)
  | .float x, .float y, .float z =>
    rw [isLE_float_float, not_or, not_or, Bool.not_eq_true, Bool.not_eq_true, not_le] at hac
    obtain ⟨hx, hz, hlt⟩ := hac
    rw [isLE_float_float, hx] at hab
    rw [isLE_float_float, hz] at hbc
    have hy : y.isNaN = true := by
      by_contra hy
      have hxy := (hab.resolve_left Bool.false_ne_true).resolve_left hy
      have hyz := (hbc.resolve_left hy).resolve_left Bool.false_ne_true
      exact absurd (hxy.trans hyz) hlt.not_ge
    exact .aroundNaN hy
      (Binary64.partialCompare_eq_some_iff.mpr ⟨hx, hz, Std.compare_eq_gt.mpr hlt⟩)

theorem Tangled.isLE {a b c : Value} (h : Tangled a b c) :
    (a.sortCompare b).isLE ∧ (b.sortCompare c).isLE ∧ ¬ (a.sortCompare c).isLE := by
  cases h with
  | @aroundNaN x z _ hz hgt =>
    refine ⟨isLE_float_float.mpr (.inr (.inl hz)), ?_⟩
    cases c with
    | int n =>
      obtain ⟨hx, hcompare⟩ := compare?_float_int.mp hgt
      have hlt := Std.compare_eq_gt.mp hcompare
      refine ⟨isLE_float_int.mpr (.inl hz), ?_⟩
      rw [isLE_float_int, hx]
      exact fun hle => absurd (hle.resolve_left Bool.false_ne_true) hlt.not_ge
    | float y =>
      obtain ⟨hx, hy, hcompare⟩ := Binary64.partialCompare_eq_some_iff.mp hgt
      have hlt := Std.compare_eq_gt.mp hcompare
      refine ⟨isLE_float_float.mpr (.inl hz), ?_⟩
      rw [isLE_float_float, hx, hy]
      simpa using hlt
    | _ => cases hgt
  | @beforeNaN n x z o hz ho hle =>
    obtain ⟨hx, rfl⟩ := compare?_int_float.mp ho
    refine ⟨isLE_int_float.mpr ⟨hx, Std.isLE_compare.mp hle⟩,
      isLE_float_float.mpr (.inr (.inl hz)), ?_⟩
    rw [isLE_int_float, hz]
    exact fun h => Bool.false_ne_true h.1.symm
  | @rounded m n x hlt hm hn =>
    obtain ⟨hx, hm⟩ := compare?_int_float.mp hm
    obtain ⟨-, hn⟩ := compare?_float_int.mp hn
    refine ⟨isLE_int_float.mpr ⟨hx, (Std.compare_eq_iff_eq.mp hm).le⟩,
      isLE_float_int.mpr (.inr (Std.compare_eq_iff_eq.mp hn).le), ?_⟩
    rw [isLE_int_int, not_le]
    exact Int64.lt_iff_toInt_lt.mp hlt

/-! ### All values -/

theorem sortCompare_swap (v w : Value) : w.sortCompare v = (v.sortCompare w).swap := by
  by_cases h : v.isNumeric = true ∧ w.isNumeric = true
  · have hsort : ∀ {v w : Value}, v.isNumeric = true → w.isNumeric = true →
        v.sortCompare w = (v.compare? w).getD (compare v.typeName w.typeName) := by
      intro v w hv hw
      cases v <;> first | (cases hv; done) | (cases w <;> first | rfl | cases hw)
    have hnames : compare w.typeName v.typeName = (compare v.typeName w.typeName).swap :=
      Std.OrientedOrd.eq_swap
    rw [hsort h.1 h.2, hsort h.2 h.1, compare?_swap h.1 h.2, hnames]
    cases v.compare? w <;> rfl
  · have h' : ¬ (w.isNumeric = true ∧ v.isNumeric = true) := fun hw => h hw.symm
    rw [sortCompare_eq_roughCompare h, sortCompare_eq_roughCompare h']
    exact Std.OrientedCmp.eq_swap

/-- **How far sorting is an order.**  Swapping values reverses their comparison.  That one value
does not go after a second one, and this one not after a third, carries over to the first and the
third exactly where the three are not tangled. -/
theorem sortCompare_isLE_trans_iff (a b c : Value) :
    b.sortCompare a = (a.sortCompare b).swap ∧
      ((a.sortCompare b).isLE ∧ (b.sortCompare c).isLE ∧ ¬ (a.sortCompare c).isLE ↔
        Tangled a b c) := by
  refine ⟨sortCompare_swap a b, fun ⟨hab, hbc, hac⟩ => ?_, Tangled.isLE⟩
  by_cases h : a.isNumeric = true ∧ b.isNumeric = true ∧ c.isNumeric = true
  · exact tangled_of_isNumeric h.1 h.2.1 h.2.2 hab hbc hac
  · exact (hac (sortCompare_isLE_trans h hab hbc)).elim

/-- Two neighbouring integers are rounded to one number. -/
theorem sortCompare_not_isLE_trans :
    ¬ ∀ a b c : Value, b.sortCompare a = (a.sortCompare b).swap ∧
      ((a.sortCompare b).isLE → (b.sortCompare c).isLE → (a.sortCompare c).isLE) := by
  intro h
  obtain ⟨-, htrans⟩ := h (.int 9007199254740993) (.float ⟨0x4340000000000000⟩)
    (.int 9007199254740992)
  exact absurd (htrans (by decide +kernel) (by decide +kernel)) (by decide +kernel)

-- NaN goes along with two numbers that are not in order.
example : (Value.float (.ofNat 2)).sortCompare (.float .nan) = .eq ∧
    (Value.float .nan).sortCompare (.float (.ofNat 1)) = .eq ∧
    (Value.float (.ofNat 2)).sortCompare (.float (.ofNat 1)) = .gt := by
  decide +kernel

end Value

end PropertyGraph
