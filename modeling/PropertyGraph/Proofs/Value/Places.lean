import Mathlib.Data.String.Basic
import PropertyGraph.Proofs.Numeric.ExactSums
import PropertyGraph.Value.Order

/-!
# The order of sorting

The order in which values are sorted is that of their places (`sortCompare_eq`).  A place is told
first by the kind of a value, and kinds go by their names; integers and floating-point numbers are
of one kind, and no other name lies between theirs.  Within a kind the values decide, but for bytes,
lists and maps, which all have the place of their kind.

So sorting orders orderly values totally.  The others it does not: NaN compares with nothing and
goes by its name, and integers beyond `2 ^ 53` that differ may both equal one floating-point number.
-/

namespace PropertyGraph

/-! ### Places -/

/-- Where a value goes among others: the kind first, then what there is to a value of the kind. -/
structure Place where
  kind : String
  truth : Bool
  number : Rat
  text : String
  seconds : Int
  nanoseconds : Nat
deriving DecidableEq

namespace Place

/-- The place of a kind whose values are not told apart. -/
def ofKind (kind : String) : Place := ⟨kind, false, 0, "", 0, 0⟩

instance : Ord Place where
  compare := compareLex (compareOn kind) <| compareLex (compareOn truth) <|
    compareLex (compareOn number) <| compareLex (compareOn text) <|
    compareLex (compareOn seconds) (compareOn nanoseconds)

theorem compare_eq (p q : Place) :
    compare p q = (compare p.kind q.kind).then ((compare p.truth q.truth).then
      ((compare p.number q.number).then ((compare p.text q.text).then
      ((compare p.seconds q.seconds).then (compare p.nanoseconds q.nanoseconds))))) :=
  rfl

instance : Std.TransOrd Place :=
  inferInstanceAs (Std.TransCmp (compareLex (compareOn kind) <| compareLex (compareOn truth) <|
    compareLex (compareOn number) <| compareLex (compareOn text) <|
    compareLex (compareOn seconds) (compareOn nanoseconds)))

instance : Std.LawfulEqOrd Place where
  eq_of_compare {p q} h := by
    rw [compare_eq] at h
    simp only [Ordering.then_eq_eq, Std.LawfulEqOrd.compare_eq_iff_eq] at h
    obtain ⟨hkind, htruth, hnumber, htext, hseconds, hnanoseconds⟩ := h
    cases p
    cases q
    congr

theorem compare_of_kind_ne {p q : Place} (h : p.kind ≠ q.kind) :
    compare p q = compare p.kind q.kind := by
  rw [compare_eq]
  cases hkind : compare p.kind q.kind with
  | lt => rfl
  | eq => exact (h (Std.LawfulEqOrd.eq_of_compare hkind)).elim
  | gt => rfl

end Place

namespace Value

/-- The place of a value among all that are not null.  The infinities lie past all finite numbers
(`Binary64.value_lt_infinity`). -/
def place : Value → Place
  | .bool b => { Place.ofKind "BOOLEAN" with truth := b }
  | .int n => { Place.ofKind "FLOAT" with number := n.toInt }
  | .float x => { Place.ofKind "FLOAT" with number := x.value }
  | .string s => { Place.ofKind "STRING" with text := s }
  | .dateTime t =>
    { Place.ofKind "DATETIME" with seconds := t.seconds, nanoseconds := t.nanoseconds }
  | v => Place.ofKind v.typeName

/-- A value that is not NaN and not an integer beyond the range in which all integers are
floating-point numbers too. -/
def Orderly : Value → Prop
  | .int n => -2 ^ 53 ≤ n.toInt ∧ n.toInt ≤ 2 ^ 53
  | .float x => x.isNaN = false
  | _ => True

instance : DecidablePred Orderly
  | .int _ => inferInstanceAs (Decidable (_ ∧ _))
  | .float _ => inferInstanceAs (Decidable (_ = _))
  | .null | .bool _ | .string _ | .bytes _ | .list _ | .map _ | .dateTime _ =>
    inferInstanceAs (Decidable True)

/-! ### Values of different kinds -/

theorem kind_place (v : Value) : v.place.kind = if v.isNumeric then "FLOAT" else v.typeName := by
  cases v <;> rfl

/-- No name of a kind lies between those of the two kinds of numbers. -/
theorem compare_typeName_number {v w : Value} (hv : v.isNumeric = false)
    (hw : w.isNumeric = true) : compare v.typeName w.typeName = compare v.typeName "FLOAT" := by
  have hnames : ∀ name ∈ ["NULL", "BOOLEAN", "STRING", "BYTES", "LIST", "MAP", "DATETIME"],
      compare name "INTEGER" = compare name "FLOAT" := by decide
  cases w with
  | int n =>
    apply hnames
    cases v <;> first | cases hv; done | simp [typeName]
  | float x => rfl
  | _ => cases hw

theorem compare_typeName {v w : Value} (h : v.place.kind ≠ w.place.kind) :
    compare v.typeName w.typeName = compare v.place.kind w.place.kind := by
  rw [kind_place, kind_place] at h ⊢
  cases hv : v.isNumeric with
  | false =>
    cases hw : w.isNumeric with
    | false => rfl
    | true => exact compare_typeName_number hv hw
  | true =>
    cases hw : w.isNumeric with
    | false =>
      rw [Std.OrientedOrd.eq_swap, compare_typeName_number hw hv, ← Std.OrientedOrd.eq_swap]
      rfl
    | true =>
      rw [hv, hw] at h
      exact (h rfl).elim

theorem compare?_of_kind_ne {v w : Value} (h : v.place.kind ≠ w.place.kind) :
    v.compare? w = none := by
  cases v <;> cases w <;> first | rfl | exact (h rfl).elim

/-! ### Values of one kind -/

theorem compare_toInt (a b : Int64) : compare a b = compare (a.toInt : Rat) b.toInt := by
  rw [← cmp_eq_compare (a.toInt : Rat), Int.cast_strictMono.cmp_map_eq, cmp_eq_compare]
  rcases lt_trichotomy a.toInt b.toInt with hlt | heq | hgt
  · rw [compare_lt_iff_lt.mpr hlt]
    exact Std.compare_eq_lt.mpr (Int64.lt_iff_toInt_lt.mpr hlt)
  · rw [Int64.toInt_inj.mp heq]
    simp
  · rw [compare_gt_iff_gt.mpr hgt]
    exact Std.compare_eq_gt.mpr (Int64.lt_iff_toInt_lt.mpr hgt)

/-- An orderly integer is a floating-point number. -/
theorem Orderly.ofInt_spec {n : Int64} (h : (Value.int n).Orderly) :
    (Binary64.ofInt n.toInt).isNaN = false ∧ (Binary64.ofInt n.toInt).value = n.toInt := by
  obtain ⟨hlow, hhigh⟩ := h
  obtain ⟨hfinite, hvalue⟩ := Binary64.ofInt_spec hlow hhigh
  exact ⟨Binary64.isNaN_of_isFinite hfinite, hvalue⟩

/-- Numbers of both kinds are compared by their values. -/
theorem compare?_of_isNumeric {v w : Value} (hv : v.Orderly) (hw : w.Orderly)
    (hnumeric : v.isNumeric = true) (hnumeric' : w.isNumeric = true) :
    v.compare? w = some (compare v.place.number w.place.number) := by
  cases v with
  | int a =>
    cases w with
    | int b => exact congrArg some (compare_toInt a b)
    | float y =>
      obtain ⟨hnumber, hvalue⟩ := hv.ofInt_spec
      have hcompare := Binary64.partialCompare_eq hnumber hw
      rw [hvalue] at hcompare
      exact hcompare
    | _ => cases hnumeric'
  | float x =>
    cases w with
    | int b =>
      obtain ⟨hnumber, hvalue⟩ := hw.ofInt_spec
      have hcompare := Binary64.partialCompare_eq hv hnumber
      rw [hvalue] at hcompare
      exact hcompare
    | float y => exact Binary64.partialCompare_eq hv hw
    | _ => cases hnumeric'
  | _ => cases hnumeric

theorem isNumeric_of_kind {v : Value} (h : v.place.kind = "FLOAT") : v.isNumeric = true := by
  cases v <;> first | rfl | simp [place, Place.ofKind, typeName] at h

theorem place_of_isNumeric {v : Value} (h : v.isNumeric = true) :
    v.place = { Place.ofKind "FLOAT" with number := v.place.number } := by
  cases v <;> first | rfl | cases h

/-- Values of one kind are compared by their places. -/
theorem compare?_of_kind_eq {v w : Value} (hv : v.Orderly) (hw : w.Orderly)
    (h : v.place.kind = w.place.kind) :
    (v.compare? w).getD (compare v.typeName w.typeName) = compare v.place w.place := by
  cases hnumeric : v.isNumeric with
  | true =>
    have hplace := place_of_isNumeric hnumeric
    have hnumeric' : w.isNumeric = true := by
      apply isNumeric_of_kind
      rw [← h, hplace]
      rfl
    rw [compare?_of_isNumeric hv hw hnumeric hnumeric', Option.getD_some, hplace,
      place_of_isNumeric hnumeric']
    simp [Place.compare_eq, Place.ofKind]
  | false =>
    -- only values of the same constructor are of one kind
    cases v <;> cases w <;> first
      | (cases hnumeric; done)
      | (simp [place, Place.ofKind, typeName] at h; done)
      | simp [compare?, place, Place.ofKind, Place.compare_eq, typeName, Instant.compare]

/-- Values other than null are sorted by their places. -/
theorem sortCompare_eq {v w : Value} (hv : v.Orderly) (hw : w.Orderly) (hnull : v.isNull = false)
    (hnull' : w.isNull = false) : v.sortCompare w = compare v.place w.place := by
  unfold sortCompare
  rw [hnull, hnull']
  by_cases h : v.place.kind = w.place.kind
  · exact compare?_of_kind_eq hv hw h
  · rw [compare?_of_kind_ne h, Place.compare_of_kind_ne h, ← compare_typeName h]
    rfl

end Value

end PropertyGraph
