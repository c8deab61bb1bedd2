import Mathlib.Algebra.Group.Int.Defs
import Mathlib.Data.List.Induction
import Mathlib.Data.List.Infix
import PropertyGraph.Query.Rows

/-!
# The sum of a column of integers

A sum of integers is an integer as long as every total on the way is one of 64 bits
(`integerSum?_eq`); what the last total is does not matter then.  So a total beyond 64 bits never
gives an integer, and a total within them may give a floating-point number: the rows `2 ^ 63 - 1`,
`1`, `-1` do, while the same rows in another order give their total.

The order of the rows has no influence exactly if the positive integers alone and the negative
ones alone have totals of 64 bits, for these bound every total on the way in every order
(`total_front_bounds`).
-/

namespace PropertyGraph

namespace Aggregation

/-! ### Totals -/

/-- An integer of 64 bits. -/
def Fits (n : Int) : Prop := -2 ^ 63 ≤ n ∧ n < 2 ^ 63

instance (n : Int) : Decidable (Fits n) := inferInstanceAs (Decidable (_ ∧ _))

/-- The total of 64-bit integers, which may have any size. -/
def total : List Int64 → Int
  | [] => 0
  | n :: rest => n.toInt + total rest

/-- The total of the first few integers fits, however many they are. -/
def StaysWithin (ns : List Int64) : Prop := ∀ front ∈ ns.inits, Fits (total front)

instance (ns : List Int64) : Decidable (StaysWithin ns) :=
  inferInstanceAs (Decidable (∀ front ∈ ns.inits, Fits (total front)))

theorem toInt_ofInt_of_fits {n : Int} (h : Fits n) : (Int64.ofInt n).toInt = n := by
  obtain ⟨hlow, hhigh⟩ := h
  apply Int64.toInt_ofInt_of_le
  · omega
  · omega

@[simp]
theorem total_nil : total [] = 0 := rfl

@[simp]
theorem total_cons (n : Int64) (ns : List Int64) : total (n :: ns) = n.toInt + total ns := rfl

theorem total_append (ns ms : List Int64) : total (ns ++ ms) = total ns + total ms := by
  induction ns with
  | nil => simp
  | cons n rest ih =>
    rw [List.cons_append, total_cons, total_cons, ih]
    omega

theorem total_concat (ns : List Int64) (n : Int64) : total (ns ++ [n]) = total ns + n.toInt := by
  simp [total_append]

theorem total_perm {ns ms : List Int64} (hperm : ns.Perm ms) : total ns = total ms := by
  induction hperm with
  | nil => rfl
  | cons n _ ih => rw [total_cons, total_cons, ih]
  | swap n m rest =>
    simp only [total_cons]
    omega
  | trans _ _ ih ih' => exact ih.trans ih'

theorem staysWithin_nil : StaysWithin [] := by
  intro front hfront
  have hnil : front = [] := by simpa using hfront
  rw [hnil, total_nil]
  decide

/-- One more integer: the totals so far fit, and so does the new one. -/
theorem staysWithin_concat {ns : List Int64} {n : Int64} :
    StaysWithin (ns ++ [n]) ↔ StaysWithin ns ∧ Fits (total ns + n.toInt) := by
  rw [← total_concat]
  unfold StaysWithin
  simp only [List.mem_inits]
  constructor
  · intro h
    constructor
    · intro front hfront
      exact h front (hfront.trans (List.prefix_append ns [n]))
    · exact h (ns ++ [n]) (List.prefix_refl _)
  · rintro ⟨hns, hlast⟩ front hfront
    rcases List.prefix_concat_iff.mp hfront with rfl | hfront
    · exact hlast
    · exact hns front hfront

theorem StaysWithin.fits_total {ns : List Int64} (h : StaysWithin ns) : Fits (total ns) :=
  h ns ((List.mem_inits _ _).mpr (List.prefix_refl ns))

/-! ### What a sum gives -/

/-- One step of a sum: with one more integer the total must fit again. -/
theorem integerSum?_concat (values : List Value) (n : Int64) :
    integerSum? (values ++ [.int n]) =
      (integerSum? values).bind fun t =>
        if Fits (t.toInt + n.toInt) then some (.ofInt (t.toInt + n.toInt)) else none := by
  unfold integerSum?
  rw [List.foldlM_append]
  simp only [List.foldlM_cons, List.foldlM_nil, bind_pure]
  rfl

/-- A whole sum: the total, if no total on the way leaves 64 bits. -/
theorem integerSum?_eq (ns : List Int64) :
    integerSum? (ns.map .int) = if StaysWithin ns then some (.ofInt (total ns)) else none := by
  -- on the last integer: what the step starts from is the total of the others, or nothing
  induction ns using List.reverseRecOn with
  | nil =>
    rw [if_pos staysWithin_nil]
    rfl
  | append_singleton ns n ih =>
    rw [List.map_append, List.map_singleton, integerSum?_concat, ih]
    by_cases hns : StaysWithin ns
    · have hso_far : (Int64.ofInt (total ns)).toInt = total ns :=
        toInt_ofInt_of_fits hns.fits_total
      rw [if_pos hns, Option.bind_some, hso_far, total_concat]
      simp only [staysWithin_concat, hns, true_and]
    · have hconcat : ¬ StaysWithin (ns ++ [n]) := by
        intro h
        exact hns (staysWithin_concat.mp h).1
      rw [if_neg hns, if_neg hconcat, Option.bind_none]

theorem numbers_map_int (ns : List Int64) :
    numbers (ns.map .int) = ns.map fun n => Binary64.ofInt n.toInt := by
  unfold numbers
  rw [List.filterMap_map, ← List.filterMap_eq_map]
  rfl

theorem sum_map_int (ns : List Int64) :
    sum (ns.map .int) =
      if StaysWithin ns then .int (.ofInt (total ns))
      else .float (Binary64.sum (ns.map fun n => .ofInt n.toInt)) := by
  unfold sum
  rw [integerSum?_eq, numbers_map_int]
  split_ifs <;> rfl

/-! ### Rows with integers -/

/-- The integer that a row has in a field. -/
def integer? (field : String) (row : Value) : Option Int64 :=
  match row.lookup? field with
  | some (.int n) => some n
  | _ => none

/-- The integers in a field of the rows, in their order. -/
def integers (field : String) (rows : List Value) : List Int64 := rows.filterMap (integer? field)

/-- What the rows have in a field are integers; some rows may have nothing or null there. -/
def HasIntegers (field : String) (rows : List Value) : Prop :=
  ∀ row ∈ rows, ∀ v, row.lookup? field = some v → v.isNull = false → ∃ n, v = .int n

theorem HasIntegers.perm {field : String} {rows rows' : List Value} (h : HasIntegers field rows)
    (hperm : rows'.Perm rows) : HasIntegers field rows' := by
  intro row hrow
  exact h row (hperm.mem_iff.mp hrow)

/-- The present values of a column are its integers. -/
theorem HasIntegers.present_eq {field : String} {rows : List Value} (h : HasIntegers field rows) :
    ((rows.filterMap fun row => row.lookup? field).filter fun v => !v.isNull) =
      (integers field rows).map .int := by
  unfold integers
  rw [List.filter_filterMap, List.map_filterMap]
  apply List.filterMap_congr
  intro row hrow
  have hrow := h row hrow
  unfold integer?
  cases hv : row.lookup? field with
  | none => rfl
  | some v =>
    cases hnull : v.isNull with
    | true =>
      have hv : v = .null := by
        cases v <;> first | rfl | cases hnull
      rw [hv]
      rfl
    | false =>
      obtain ⟨n, rfl⟩ := hrow v hv hnull
      rfl

theorem value_eq_sum {c : Aggregation} (hop : c.op = .sum) {rows : List Value}
    (h : HasIntegers c.field rows) :
    c.value rows = sum ((integers c.field rows).map .int) := by
  unfold value
  rw [h.present_eq]
  simp only [hop]

/-! ### The order of the rows -/

/-- Rows chosen by their integers; those without one may be chosen or not. -/
theorem integers_filter {field : String} {chosen : Value → Bool} {p : Int64 → Bool}
    (h : ∀ row n, integer? field row = some n → chosen row = p n) (rows : List Value) :
    integers field (rows.filter chosen) = (integers field rows).filter p := by
  unfold integers
  rw [List.filterMap_filter, List.filter_filterMap]
  apply List.filterMap_congr
  intro row _
  cases hn : integer? field row with
  | none => simp
  | some n =>
    have hchosen := h row n hn
    simp [hchosen, Option.filter]

/-- Rows can be put into an order in which the integers with a property come first. -/
theorem exists_perm_integers (field : String) (rows : List Value) (p : Int64 → Bool) :
    ∃ rows', rows'.Perm rows ∧ integers field rows' =
      (integers field rows).filter p ++ (integers field rows).filter fun n => !p n := by
  let chosen (row : Value) : Bool := (integer? field row).any p
  have hchosen : ∀ row n, integer? field row = some n → chosen row = p n := by
    intro row n hn
    simp [chosen, hn]
  refine ⟨rows.filter chosen ++ rows.filter fun row => !chosen row,
    List.filter_append_perm chosen rows, ?_⟩
  have happend : integers field (rows.filter chosen ++ rows.filter fun row => !chosen row) =
      integers field (rows.filter chosen) ++ integers field (rows.filter fun row => !chosen row) :=
    List.filterMap_append
  rw [happend, integers_filter hchosen, integers_filter]
  intro row n hn
  rw [hchosen row n hn]

/-- The positive ones among integers. -/
def positives (ns : List Int64) : List Int64 := ns.filter fun n => 0 < n.toInt

/-- The negative ones among integers. -/
def negatives (ns : List Int64) : List Int64 := ns.filter fun n => n.toInt < 0

theorem total_positives_cons (n : Int64) (ns : List Int64) :
    total (positives (n :: ns)) = max n.toInt 0 + total (positives ns) := by
  by_cases hn : 0 < n.toInt
  · simp only [positives, List.filter_cons_of_pos, hn, decide_true, total_cons]
    omega
  · simp only [positives, List.filter_cons, hn, decide_false, Bool.false_eq_true, if_false]
    omega

theorem total_negatives_cons (n : Int64) (ns : List Int64) :
    total (negatives (n :: ns)) = min n.toInt 0 + total (negatives ns) := by
  by_cases hn : n.toInt < 0
  · simp only [negatives, List.filter_cons_of_pos, hn, decide_true, total_cons]
    omega
  · simp only [negatives, List.filter_cons, hn, decide_false, Bool.false_eq_true, if_false]
    omega

/-- Whatever is left out, the total lies between that of the negative integers and that of the
positive ones. -/
theorem total_front_bounds {front ns : List Int64} (h : front.Sublist ns) :
    total (negatives ns) ≤ total front ∧ total front ≤ total (positives ns) := by
  induction h with
  | slnil => simp [negatives, positives]
  | cons n _ ih =>
    rw [total_positives_cons, total_negatives_cons]
    omega
  | cons_cons n _ ih =>
    rw [total_positives_cons, total_negatives_cons, total_cons]
    omega

theorem staysWithin_of_fits {ns : List Int64} (hpos : Fits (total (positives ns)))
    (hneg : Fits (total (negatives ns))) : StaysWithin ns := by
  intro front hfront
  have hbounds := total_front_bounds ((List.mem_inits _ _).mp hfront).sublist
  unfold Fits at hpos hneg ⊢
  omega

/-- Integers that can be put first have a total that fits, if the sum stays within 64 bits in
every order. -/
theorem fits_of_staysWithin {field : String} {rows : List Value} (p : Int64 → Bool)
    (h : ∀ rows', rows'.Perm rows → StaysWithin (integers field rows')) :
    Fits (total ((integers field rows).filter p)) := by
  obtain ⟨rows', hperm, heq⟩ := exists_perm_integers field rows p
  apply h rows' hperm
  rw [heq]
  exact (List.mem_inits _ _).mpr (List.prefix_append _ _)

section

variable {c : Aggregation} {rows rows' : List Value}

theorem integers_perm (hperm : rows'.Perm rows) {field : String} :
    (integers field rows').Perm (integers field rows) := hperm.filterMap _

/-- The sum of the rows in any order: their total is the same, but not the totals on the way. -/
theorem value_perm (hop : c.op = .sum) (hrows : HasIntegers c.field rows)
    (hperm : rows'.Perm rows) :
    c.value rows' =
      if StaysWithin (integers c.field rows') then .int (.ofInt (total (integers c.field rows)))
      else .float (Binary64.sum
        ((integers c.field rows').map fun n => Binary64.ofInt n.toInt)) := by
  rw [value_eq_sum hop (hrows.perm hperm), sum_map_int, total_perm (integers_perm hperm)]

theorem value_perm_of_not_fits (hop : c.op = .sum) (hrows : HasIntegers c.field rows)
    (hperm : rows'.Perm rows) (h : ¬ Fits (total (integers c.field rows))) :
    ∃ x, c.value rows' = .float x := by
  have hleaves : ¬ StaysWithin (integers c.field rows') := by
    intro hstays
    apply h
    rw [← total_perm (integers_perm hperm)]
    exact hstays.fits_total
  rw [value_perm hop hrows hperm, if_neg hleaves]
  exact ⟨_, rfl⟩

/-- A sum is an integer only if no total on the way leaves 64 bits. -/
theorem staysWithin_of_value_eq (hop : c.op = .sum) (hrows : HasIntegers c.field rows)
    (hperm : rows'.Perm rows) {n : Int64} (h : c.value rows' = .int n) :
    StaysWithin (integers c.field rows') := by
  by_contra hleaves
  rw [value_perm hop hrows hperm, if_neg hleaves] at h
  cases h

theorem value_perm_of_fits (hop : c.op = .sum) (hrows : HasIntegers c.field rows)
    (hpos : Fits (total (positives (integers c.field rows))))
    (hneg : Fits (total (negatives (integers c.field rows)))) (hperm : rows'.Perm rows) :
    ∃ n : Int64, n.toInt = total (integers c.field rows) ∧ c.value rows' = .int n := by
  have hstays : StaysWithin (integers c.field rows') := by
    apply staysWithin_of_fits
    · rwa [positives, total_perm ((integers_perm hperm).filter _)]
    · rwa [negatives, total_perm ((integers_perm hperm).filter _)]
  have hfits : Fits (total (integers c.field rows)) := by
    rw [← total_perm (integers_perm hperm)]
    exact hstays.fits_total
  rw [value_perm hop hrows hperm, if_pos hstays]
  exact ⟨_, toInt_ofInt_of_fits hfits, rfl⟩

end

/-- The sum of a column of integers is the integer of its total if no total on the way leaves 64
bits, and else the floating-point sum.  A total that does not fit gives a floating-point number in
every order of the rows.  The sum is the integer of the total in every order exactly if the
positive integers and the negative ones each have a total that fits. -/
theorem value_sum (c : Aggregation) (hop : c.op = .sum) (rows : List Value)
    (hrows : HasIntegers c.field rows) :
    (StaysWithin (integers c.field rows) →
      ∃ n : Int64, n.toInt = total (integers c.field rows) ∧ c.value rows = .int n) ∧
    (¬ StaysWithin (integers c.field rows) →
      c.value rows = .float (Binary64.sum
        ((integers c.field rows).map fun n => Binary64.ofInt n.toInt))) ∧
    (¬ Fits (total (integers c.field rows)) →
      ∀ rows', rows'.Perm rows → ∃ x, c.value rows' = .float x) ∧
    ((∀ rows', rows'.Perm rows →
        ∃ n : Int64, n.toInt = total (integers c.field rows) ∧ c.value rows' = .int n) ↔
      Fits (total (positives (integers c.field rows))) ∧
        Fits (total (negatives (integers c.field rows)))) := by
  have hvalue := value_perm hop hrows (List.Perm.refl rows)
  refine ⟨?_, ?_, ?_, ?_, ?_⟩
  · intro hstays
    rw [hvalue, if_pos hstays]
    exact ⟨_, toInt_ofInt_of_fits hstays.fits_total, rfl⟩
  · intro hleaves
    rw [hvalue, if_neg hleaves]
  · intro hfits rows' hperm
    exact value_perm_of_not_fits hop hrows hperm hfits
  · -- the orders with the positive integers first and with the negative ones first tell
    intro h
    have hstays : ∀ rows', rows'.Perm rows → StaysWithin (integers c.field rows') := by
      intro rows' hperm
      obtain ⟨n, -, hint⟩ := h rows' hperm
      exact staysWithin_of_value_eq hop hrows hperm hint
    exact ⟨fits_of_staysWithin _ hstays, fits_of_staysWithin _ hstays⟩
  · intro ⟨hpos, hneg⟩ rows' hperm
    exact value_perm_of_fits hop hrows hpos hneg hperm

/-! ### At the limit -/

/-- Rows that have the given integers in the field `n`. -/
def rowsOf (ns : List Int64) : List Value := ns.map fun n => .map [("n", .int n)]

theorem integers_rowsOf (ns : List Int64) : integers "n" (rowsOf ns) = ns := by
  unfold integers rowsOf
  rw [List.filterMap_map]
  exact List.filterMap_some ..

theorem hasIntegers_rowsOf (ns : List Int64) : HasIntegers "n" (rowsOf ns) := by
  intro row hrow v hv _
  obtain ⟨n, -, rfl⟩ := List.mem_map.mp hrow
  exact ⟨n, (Option.some.inj hv).symm⟩

/-- Taken from the negative integer on, the largest integer, `1` and `-1` give their total. -/
theorem value_sum_from_negative :
    HasIntegers "n" (rowsOf [-1, Int64.maxValue, 1]) ∧
    StaysWithin (integers "n" (rowsOf [-1, Int64.maxValue, 1])) ∧
    ∃ n : Int64, n.toInt = total (integers "n" (rowsOf [-1, Int64.maxValue, 1])) ∧
      value ⟨"n", .sum, "n_sum"⟩ (rowsOf [-1, Int64.maxValue, 1]) = .int n := by
  have hrows := hasIntegers_rowsOf [-1, Int64.maxValue, 1]
  have hstays : StaysWithin (integers "n" (rowsOf [-1, Int64.maxValue, 1])) := by
    rw [integers_rowsOf]
    decide +kernel
  exact ⟨hrows, hstays, (value_sum ⟨"n", .sum, "n_sum"⟩ rfl _ hrows).1 hstays⟩

/-- Taken from the largest integer on, the same three do not, although the total fits. -/
theorem sum_within_limit_not_integer :
    ¬ ∀ (c : Aggregation) (rows : List Value), c.op = .sum → HasIntegers c.field rows →
      Fits (total (integers c.field rows)) →
      ∃ n : Int64, n.toInt = total (integers c.field rows) ∧ c.value rows = .int n := by
  intro h
  have hrows := hasIntegers_rowsOf [Int64.maxValue, 1, -1]
  have hfits : Fits (total (integers "n" (rowsOf [Int64.maxValue, 1, -1]))) := by
    rw [integers_rowsOf]
    decide +kernel
  obtain ⟨n, -, hint⟩ := h ⟨"n", .sum, "n_sum"⟩ _ rfl hrows hfits
  have hstays := staysWithin_of_value_eq rfl hrows (List.Perm.refl _) hint
  have hleaves : ¬ StaysWithin [Int64.maxValue, 1, -1] := by decide +kernel
  rw [integers_rowsOf] at hstays
  exact hleaves hstays

end Aggregation

end PropertyGraph
