import PropertyGraph.Proofs.Collection.StableSort
import PropertyGraph.Proofs.Value.Places
import PropertyGraph.Query.Rows

/-!
# Sorting rows by keys

`sortRows_spec`: rows come out ordered by the keys in turn, where a row without a value for a key
goes after all that have one in either direction, and rows that no key tells apart stay as they are.
This holds where the values of the keys are orderly.

A key compares rows by the places of their values then (`compareRows_eq`), which is a total order up
to ties in either direction (`orderRows`), and so is the order by all keys (`orderByAll`).
-/

namespace PropertyGraph

namespace SortKey

variable {k : SortKey} {keys : List SortKey} {a b : Value} {rows : List Value}

/-! ### One key -/

/-- The place that a row has by a key, that of its value, unless this is missing or null. -/
def place? (k : SortKey) (row : Value) : Option Place :=
  ((row.lookup? k.field).filter fun v => !v.isNull).map Value.place

/-- A row goes before another one by a key: in the direction of the key, or because the other one
has no place. -/
def Precedes (k : SortKey) (a b : Value) : Prop :=
  match k.place? a, k.place? b with
  | some p, some q =>
    match k.order with
    | .ascending => compare p q = .lt
    | .descending => compare q p = .lt
  | some _, none => True
  | none, _ => False

/-- A key does not tell rows apart. -/
def Ties (k : SortKey) (a b : Value) : Prop := k.place? a = k.place? b

instance (k : SortKey) (a b : Value) : Decidable (k.Ties a b) :=
  inferInstanceAs (Decidable (_ = _))

/-- The value that a row has in the field of a key, if any, is orderly. -/
def OrderlyIn (k : SortKey) (row : Value) : Prop :=
  ∀ v, row.lookup? k.field = some v → v.Orderly

/-- The order of places in a direction, where those without a place go last. -/
def orderPlaces (order : SortOrder) : Option Place → Option Place → Ordering :=
  compareLex (compareOn Option.isNone) <|
    match order with
    | .ascending => compareOn fun p => p.getD (Place.ofKind "NULL")
    | .descending => fun p q => compareOn (fun p => p.getD (Place.ofKind "NULL")) q p

instance (order : SortOrder) : Std.TransCmp (orderPlaces order) := by
  unfold orderPlaces
  cases order <;> infer_instance

@[simp]
theorem orderPlaces_none_none (order : SortOrder) : orderPlaces order none none = .eq := by
  cases order <;> rfl

@[simp]
theorem orderPlaces_some_none (order : SortOrder) (p : Place) :
    orderPlaces order (some p) none = .lt := by
  cases order <;> rfl

@[simp]
theorem orderPlaces_none_some (order : SortOrder) (q : Place) :
    orderPlaces order none (some q) = .gt := by
  cases order <;> rfl

@[simp]
theorem orderPlaces_ascending (p q : Place) :
    orderPlaces .ascending (some p) (some q) = compare p q := by
  simp [orderPlaces, compareLex, compareOn]

@[simp]
theorem orderPlaces_descending (p q : Place) :
    orderPlaces .descending (some p) (some q) = compare q p := by
  simp [orderPlaces, compareLex, compareOn]

/-- The order of rows by their places. -/
def orderRows (k : SortKey) (a b : Value) : Ordering :=
  orderPlaces k.order (k.place? a) (k.place? b)

instance (k : SortKey) : Std.TransCmp k.orderRows where
  eq_swap {a b} := @Std.OrientedCmp.eq_swap _ (orderPlaces k.order) _ (k.place? a) (k.place? b)
  isLE_trans {_ _ _} := @Std.TransCmp.isLE_trans _ (orderPlaces k.order) _ _ _ _

theorem orderRows_eq_lt_iff : k.orderRows a b = .lt ↔ k.Precedes a b := by
  unfold orderRows Precedes
  cases k.place? a with
  | none =>
    cases k.place? b with
    | none => simp
    | some q => simp
  | some p =>
    cases k.place? b with
    | none => simp
    | some q =>
      cases k.order with
      | ascending => rw [orderPlaces_ascending]
      | descending => rw [orderPlaces_descending]

theorem orderRows_eq_eq_iff : k.orderRows a b = .eq ↔ k.Ties a b := by
  unfold orderRows Ties
  cases k.place? a with
  | none =>
    cases k.place? b with
    | none => simp
    | some q => simp
  | some p =>
    cases k.place? b with
    | none => simp
    | some q =>
      cases k.order with
      | ascending => simp
      | descending =>
        rw [orderPlaces_descending, Std.LawfulEqOrd.compare_eq_iff_eq, Option.some_inj]
        exact eq_comm

/-- A row has a place by a key if it has a value there other than null. -/
theorem place?_cases (k : SortKey) (row : Value) :
    (((row.lookup? k.field).getD .null).isNull = true ∧ k.place? row = none) ∨
    ∃ v, row.lookup? k.field = some v ∧ v.isNull = false ∧ k.place? row = some v.place := by
  unfold place?
  cases row.lookup? k.field with
  | none => exact Or.inl ⟨rfl, rfl⟩
  | some v =>
    cases hnull : v.isNull with
    | true => exact Or.inl ⟨hnull, by simp [hnull]⟩
    | false => exact Or.inr ⟨v, rfl, hnull, by simp [hnull]⟩

/-- By one key rows with orderly values are compared by their places. -/
theorem compareRows_eq (ha : k.OrderlyIn a) (hb : k.OrderlyIn b) :
    k.compareRows a b = k.orderRows a b := by
  unfold compareRows orderRows
  rcases k.place?_cases a with ⟨hnull, hplace⟩ | ⟨v, hv, hnull, hplace⟩
  · rcases k.place?_cases b with ⟨hnull', hplace'⟩ | ⟨w, hw, hnull', hplace'⟩
    · rw [hplace, hplace', orderPlaces_none_none]
      simp [Value.sortCompare, hnull, hnull']
    · rw [hplace, hplace', orderPlaces_none_some, hw]
      simp [Value.sortCompare, hnull, hnull']
  · rcases k.place?_cases b with ⟨hnull', hplace'⟩ | ⟨w, hw, hnull', hplace'⟩
    · rw [hplace, hplace', orderPlaces_some_none, hv]
      simp [Value.sortCompare, hnull, hnull']
    · have hsort := Value.sortCompare_eq (ha v hv) (hb w hw) hnull hnull'
      simp only [hplace, hplace', hv, hw, Option.getD_some, hsort, hnull, hnull']
      cases k.order with
      | ascending =>
        rw [orderPlaces_ascending]
        rfl
      | descending =>
        rw [orderPlaces_descending, Std.OrientedOrd.eq_swap (a := w.place)]
        rfl

/-! ### Several keys -/

/-- A row goes before another one by the first of the keys that tells them apart. -/
def PrecedesByAll : List SortKey → Value → Value → Prop
  | [], _, _ => False
  | k :: rest, a, b => k.Precedes a b ∨ k.Ties a b ∧ PrecedesByAll rest a b

/-- None of the keys tells rows apart. -/
def TiesByAll (keys : List SortKey) (a b : Value) : Prop := ∀ k ∈ keys, k.Ties a b

instance (keys : List SortKey) (a b : Value) : Decidable (TiesByAll keys a b) :=
  inferInstanceAs (Decidable (∀ k ∈ keys, k.Ties a b))

/-- The order of rows by their places for each key in turn. -/
def orderByAll : List SortKey → Value → Value → Ordering
  | [] => fun _ _ => .eq
  | k :: rest => compareLex k.orderRows (orderByAll rest)

instance orderByAll.transCmp : ∀ keys, Std.TransCmp (orderByAll keys)
  | [] => { eq_swap := rfl, isLE_trans := fun _ _ => rfl }
  | k :: rest =>
    have := orderByAll.transCmp rest
    inferInstanceAs (Std.TransCmp (compareLex k.orderRows (orderByAll rest)))

theorem orderByAll_eq_lt_iff : orderByAll keys a b = .lt ↔ PrecedesByAll keys a b := by
  induction keys with
  | nil => simp [orderByAll, PrecedesByAll]
  | cons k rest ih =>
    unfold orderByAll PrecedesByAll
    rw [compareLex, Ordering.then_eq_lt, orderRows_eq_lt_iff, orderRows_eq_eq_iff, ih]

theorem orderByAll_eq_eq_iff : orderByAll keys a b = .eq ↔ TiesByAll keys a b := by
  unfold TiesByAll
  induction keys with
  | nil => simp [orderByAll]
  | cons k rest ih =>
    unfold orderByAll
    rw [compareLex, Ordering.then_eq_eq, orderRows_eq_eq_iff, ih, List.forall_mem_cons]

/-- By all keys too rows with orderly values are compared by their places. -/
theorem compareByAll_eq (ha : ∀ k ∈ keys, k.OrderlyIn a) (hb : ∀ k ∈ keys, k.OrderlyIn b) :
    compareByAll keys a b = orderByAll keys a b := by
  induction keys with
  | nil => rfl
  | cons k rest ih =>
    obtain ⟨hka, ha⟩ := List.forall_mem_cons.mp ha
    obtain ⟨hkb, hb⟩ := List.forall_mem_cons.mp hb
    have hrest := ih ha hb
    unfold compareByAll at hrest ⊢
    rw [List.foldr_cons, hrest, compareRows_eq hka hkb]
    rfl

theorem Ties.not_precedes (h : k.Ties a b) : ¬ k.Precedes a b := by
  intro hprecedes
  rw [← orderRows_eq_lt_iff, orderRows_eq_eq_iff.mpr h] at hprecedes
  cases hprecedes

/-- A row with no place by a key precedes none by it. -/
theorem not_precedes_of_place?_eq_none (h : k.place? a = none) : ¬ k.Precedes a b := by
  unfold Precedes
  rw [h]
  simp

/-- What is tied by the first keys is ordered by the others. -/
theorem PrecedesByAll.of_append {front : List SortKey} (h : PrecedesByAll (front ++ keys) a b)
    (hties : TiesByAll front a b) : PrecedesByAll keys a b := by
  induction front with
  | nil => exact h
  | cons k front ih =>
    obtain ⟨hk, hfront⟩ := List.forall_mem_cons.mp hties
    rcases h with hprecedes | ⟨-, hrest⟩
    · exact (hk.not_precedes hprecedes).elim
    · exact ih hrest hfront

/-! ### Sorting -/

/-- Rows come out in the order of their places. -/
theorem sortRows_eq (h : ∀ row ∈ rows, ∀ k ∈ keys, k.OrderlyIn row) :
    sortRows keys rows = stableSortBy (orderByAll keys) rows := by
  apply stableSort_congr
  intro a ha b hb
  rw [compareByAll_eq (h a ha) (h b hb)]

/-- Sorting rows whose values for the keys are orderly gives the same rows, ordered by the first key
that tells them apart.  Of rows that the earlier keys do not tell apart those without a value for a
key come last, in either direction; and rows that no key tells apart keep their order. -/
theorem sortRows_spec (keys : List SortKey) (rows : List Value)
    (h : ∀ row ∈ rows, ∀ k ∈ keys, k.OrderlyIn row) :
    (sortRows keys rows).Perm rows ∧
    ((sortRows keys rows).Pairwise fun a b => PrecedesByAll keys a b ∨ TiesByAll keys a b) ∧
    (∀ front k rest, keys = front ++ k :: rest → (sortRows keys rows).Pairwise fun a b =>
      TiesByAll front a b → k.place? a = none → k.place? b = none) ∧
    ∀ a, (sortRows keys rows).filter (fun b => TiesByAll keys a b) =
      rows.filter fun b => TiesByAll keys a b := by
  have hsorted : (sortRows keys rows).Pairwise fun a b =>
      PrecedesByAll keys a b ∨ TiesByAll keys a b := by
    rw [sortRows_eq h]
    refine (stableSortBy_sorted (orderByAll keys) rows).imp fun {a b} hle => ?_
    rw [← orderByAll_eq_lt_iff, ← orderByAll_eq_eq_iff]
    cases hcompare : orderByAll keys a b with
    | lt => exact Or.inl rfl
    | eq => exact Or.inr rfl
    | gt =>
      rw [hcompare] at hle
      cases hle
  refine ⟨stableSort_perm _ rows, hsorted, ?_, ?_⟩
  · rintro front k rest rfl
    refine hsorted.imp fun {a b} hab htied hnone => ?_
    -- a row without a place precedes none by this key, so the two are tied by it
    have hties : k.Ties a b := by
      rcases hab with hprecedes | hties
      · rcases hprecedes.of_append htied with hprecedes | ⟨hties, -⟩
        · exact (not_precedes_of_place?_eq_none hnone hprecedes).elim
        · exact hties
      · exact hties k (List.mem_append_right _ List.mem_cons_self)
    exact hties.symm.trans hnone
  · intro a
    rw [sortRows_eq h]
    apply filter_stableSort
    intro b _ c _ hb hc
    -- rows tied with the same row are tied with each other
    have hties : TiesByAll keys b c := by
      intro k hk
      have hb := of_decide_eq_true hb k hk
      have hc := of_decide_eq_true hc k hk
      exact hb.symm.trans hc
    rw [orderByAll_eq_eq_iff.mpr hties]
    rfl

/-! ### Values of several kinds -/

/-- Rows with a null, two numbers of the same value, nothing, a text and a larger number. -/
def ranked : List Value :=
  [.map [("id", .string "a"), ("rank", .null)], .map [("id", .string "b"), ("rank", .int 1)],
    .map [("id", .string "c")], .map [("id", .string "d"), ("rank", .float (.ofNat 1))],
    .map [("id", .string "e"), ("rank", .string "top")],
    .map [("id", .string "f"), ("rank", .float (.ofNat 2))]]

theorem sortRows_ranked :
    (∀ row ∈ ranked, ∀ k ∈ [SortKey.mk "rank" .descending], k.OrderlyIn row) ∧
    ((sortRows [⟨"rank", .descending⟩] ranked).Pairwise fun a b =>
      PrecedesByAll [⟨"rank", .descending⟩] a b ∨ TiesByAll [⟨"rank", .descending⟩] a b) ∧
    (sortRows [⟨"rank", .descending⟩] ranked).map rowId? =
      [some "e", some "f", some "b", some "d", some "a", some "c"] := by
  have hvalues : ∀ row ∈ ranked, ∀ v ∈ (row.lookup? "rank").toList, v.Orderly := by
    decide +kernel
  have horderly : ∀ row ∈ ranked, ∀ k ∈ [SortKey.mk "rank" .descending], k.OrderlyIn row := by
    intro row hrow k hk v hv
    obtain rfl := List.mem_singleton.mp hk
    exact hvalues row hrow v (Option.mem_toList.mpr hv)
  exact ⟨horderly, (sortRows_spec _ ranked horderly).2.1, by decide +kernel⟩

end SortKey

end PropertyGraph
