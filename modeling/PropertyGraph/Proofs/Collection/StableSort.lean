import Mathlib.Data.List.Induction
import Mathlib.Data.List.Nodup
import Mathlib.Logic.Function.Basic
import PropertyGraph.Collection.StableSort

/-!
# Stable sorting

What a stable sort does with parts of a list: elements that do not go before each other keep their
order (`filter_stableSort`), and a list of which no later part goes before an earlier one is sorted
part by part (`stableSort_append`), so that its first elements are the first ones in order too
(`take_stableSort`).

Sorting looks at nothing but the order.  It goes along with a map that keeps the order
(`stableSort_map`), it does the same by two orders that agree on the elements of the list
(`stableSort_congr`), and where the order tells all elements apart it does not matter how they are
listed (`stableSortBy_eq_of_perm`).

A sorted list is told by the elements that tie with each element (`eq_of_filter_ties`).  So a map
that undoes itself and keeps ties can be undone on a sorted list, though the list is sorted after
each turn (`stableSortBy_map_involutive`).
-/

namespace PropertyGraph

variable {α β : Type} {before : α → α → Bool}

/-- The sorted elements in reverse, while they are taken up one by one. -/
theorem foldl_settle_perm (before : α → α → Bool) (xs : List α) :
    (xs.foldl (fun sorted x => settle before x sorted) []).Perm xs :=
  (List.reverse_perm _).symm.trans (stableSort_perm before xs)

/-! ### Parts of a list -/

/-- An element stops at elements that it does not go before. -/
theorem settle_append {x : α} {ys : List α} (h : ∀ y ∈ ys, before x y = false) (zs : List α) :
    settle before x (zs ++ ys) = settle before x zs ++ ys := by
  induction zs with
  | nil =>
    cases ys with
    | nil => rfl
    | cons y rest =>
      have hy : before x y = false := h y List.mem_cons_self
      simp [settle, hy]
  | cons z rest ih =>
    rw [List.cons_append, settle, settle, ih]
    split <;> rfl

/-- Where no later element goes before an earlier one the two parts are sorted each by itself. -/
theorem stableSort_append {xs ys : List α} (h : ∀ x ∈ xs, ∀ y ∈ ys, before y x = false) :
    stableSort before (xs ++ ys) = stableSort before xs ++ stableSort before ys := by
  -- the sorted first part is in reverse, and the second part settles in front of it
  have hsettle : ∀ (ys zs sorted : List α), (∀ y ∈ ys, ∀ x ∈ sorted, before y x = false) →
      ys.foldl (fun sorted x => settle before x sorted) (zs ++ sorted)
        = ys.foldl (fun sorted x => settle before x sorted) zs ++ sorted := by
    intro ys
    induction ys with
    | nil => exact fun _ _ _ => rfl
    | cons y rest ih =>
      intro zs sorted hsorted
      obtain ⟨hy, hrest⟩ := List.forall_mem_cons.mp hsorted
      rw [List.foldl_cons, settle_append hy, ih _ _ hrest, List.foldl_cons]
  unfold stableSort
  rw [List.foldl_append, ← List.reverse_append, ← hsettle ys [] _ fun y hy x hx =>
    h x ((foldl_settle_perm before xs).mem_iff.mp hx) y hy]
  rfl

/-- Where no later element goes before the first ones these are the first in order. -/
theorem take_stableSort {xs : List α} {n : Nat}
    (h : ∀ x ∈ xs.take n, ∀ y ∈ xs.drop n, before y x = false) :
    (stableSort before xs).take n = stableSort before (xs.take n) := by
  have hlength : (stableSort before (xs.take n)).length = min n xs.length := by
    rw [(stableSort_perm before _).length_eq, List.length_take]
  have hsplit : stableSort before xs
      = stableSort before (xs.take n) ++ stableSort before (xs.drop n) := by
    rw [← stableSort_append h, List.take_append_drop]
  rw [hsplit]
  rcases Nat.le_total n xs.length with hle | hle
  · exact List.take_left' (hlength.trans (Nat.min_eq_left hle))
  · -- nothing is cut off
    have hrest : stableSort before (xs.drop n) = [] := by
      rw [List.drop_eq_nil_of_le hle]
      rfl
    rw [hrest, List.append_nil, List.take_of_length_le (hlength ▸ Nat.min_le_left ..)]

/-! ### Stability -/

/-- An element settles in front of those of a kind of which none goes before another. -/
theorem filter_settle {p : α → Bool} {x : α} {ys : List α}
    (h : ∀ y ∈ ys, p x = true → p y = true → before x y = false) :
    (settle before x ys).filter p = (x :: ys).filter p := by
  induction ys with
  | nil => rfl
  | cons y rest ih =>
    obtain ⟨hy, hrest⟩ := List.forall_mem_cons.mp h
    rw [settle]
    split
    · next hbefore =>
      have hone : p x = true → p y = false := by
        intro hx
        by_contra hne
        rw [hy hx (by simpa using hne)] at hbefore
        cases hbefore
      rw [List.filter_cons, ih hrest, List.filter_cons, List.filter_cons, List.filter_cons]
      cases hx : p x with
      | true => simp [hone hx]
      | false => simp
    · rfl

/-- Elements of a kind of which none goes before another stay in the order in which they are
listed. -/
theorem filter_stableSort {p : α → Bool} {xs : List α}
    (h : ∀ x ∈ xs, ∀ y ∈ xs, p x = true → p y = true → before x y = false) :
    (stableSort before xs).filter p = xs.filter p := by
  have hsettled : (xs.foldl (fun sorted x => settle before x sorted) []).filter p
      = (xs.filter p).reverse := by
    induction xs using List.reverseRecOn with
    | nil => rfl
    | append_singleton xs x ih =>
      have hfront : ∀ y ∈ xs, y ∈ xs ++ [x] := fun y hy => List.mem_append_left _ hy
      have hlast : x ∈ xs ++ [x] := by simp
      rw [List.foldl_append, List.foldl_cons, List.foldl_nil, filter_settle, List.filter_cons,
        ih fun y hy z hz => h y (hfront y hy) z (hfront z hz), List.filter_append]
      · cases hx : p x <;> simp [hx]
      · intro y hy
        exact h x hlast y (hfront y ((foldl_settle_perm before xs).mem_iff.mp hy))
  unfold stableSort
  rw [List.filter_reverse, hsettled, List.reverse_reverse]

/-! ### What the order looks at -/

/-- Two orders that agree on the elements of a list sort it in the same way. -/
theorem stableSort_congr {before' : α → α → Bool} {xs : List α}
    (h : ∀ x ∈ xs, ∀ y ∈ xs, before x y = before' x y) :
    stableSort before xs = stableSort before' xs := by
  have hsettle : ∀ (x : α) (ys : List α), (∀ y ∈ ys, before x y = before' x y) →
      settle before x ys = settle before' x ys := by
    intro x ys hys
    induction ys with
    | nil => rfl
    | cons y rest ih =>
      obtain ⟨hy, hrest⟩ := List.forall_mem_cons.mp hys
      rw [settle, settle, hy, ih hrest]
  unfold stableSort
  congr 1
  induction xs using List.reverseRecOn with
  | nil => rfl
  | append_singleton xs x ih =>
    have hfront : ∀ y ∈ xs, y ∈ xs ++ [x] := fun y hy => List.mem_append_left _ hy
    have hlast : x ∈ xs ++ [x] := by simp
    rw [List.foldl_append, List.foldl_append, List.foldl_cons, List.foldl_nil, List.foldl_cons,
      List.foldl_nil, ih fun y hy z hz => h y (hfront y hy) z (hfront z hz)]
    apply hsettle
    intro y hy
    exact h x hlast y (hfront y ((foldl_settle_perm before' xs).mem_iff.mp hy))

/-- Sorting goes along with a map that keeps the order. -/
theorem stableSort_map {before' : β → β → Bool} {f : α → β}
    (h : ∀ x y, before' (f x) (f y) = before x y) (xs : List α) :
    stableSort before' (xs.map f) = (stableSort before xs).map f := by
  have hsettle : ∀ (x : α) (ys : List α),
      settle before' (f x) (ys.map f) = (settle before x ys).map f := by
    intro x ys
    induction ys with
    | nil => rfl
    | cons y rest ih =>
      rw [List.map_cons, settle, settle, h, ih]
      split <;> rfl
  unfold stableSort
  rw [List.map_reverse]
  congr 1
  induction xs using List.reverseRecOn with
  | nil => rfl
  | append_singleton xs x ih =>
    rw [List.map_append, List.foldl_append, ih, List.foldl_append]
    exact hsettle x _

/-- The order in which elements are given does not matter to a sort that tells them apart. -/
theorem stableSortBy_eq_of_perm {cmp : α → α → Ordering} [Std.TransCmp cmp] {f : α → β}
    {xs ys : List α} (hperm : xs.Perm ys) (hnodup : (xs.map f).Nodup)
    (hcmp : ∀ x y, cmp x y = .eq → f x = f y) : stableSortBy cmp xs = stableSortBy cmp ys := by
  have hxs : (stableSortBy cmp xs).Perm xs := stableSort_perm ..
  have hys : (stableSortBy cmp ys).Perm ys := stableSort_perm ..
  refine List.Perm.eq_of_pairwise (fun x y hx hy hxy hyx => ?_) (stableSortBy_sorted cmp xs)
    (stableSortBy_sorted cmp ys) (hxs.trans (hperm.trans hys.symm))
  have heq : cmp x y = .eq := Std.OrientedCmp.isLE_antisymm hxy hyx
  exact List.inj_on_of_nodup_map hnodup (hxs.mem_iff.mp hx)
    (hperm.mem_iff.mpr (hys.mem_iff.mp hy)) (hcmp x y heq)

/-! ### Ties -/

section Ties

variable {cmp : α → α → Ordering}

/-- The order does not tell an element from another one. -/
def ties (cmp : α → α → Ordering) (a b : α) : Bool := cmp a b == .eq

variable [Std.TransCmp cmp]

@[simp]
theorem ties_self (a : α) : ties cmp a a = true := beq_iff_eq.mpr Std.ReflCmp.compare_self

/-- Elements that tie with one element stay in the order in which they are listed. -/
theorem filter_ties_stableSortBy (a : α) (xs : List α) :
    (stableSortBy cmp xs).filter (ties cmp a) = xs.filter (ties cmp a) := by
  refine filter_stableSort fun x _ y _ hx hy => ?_
  have heq : cmp x y = .eq :=
    Std.TransCmp.eq_trans (Std.OrientedCmp.eq_symm (eq_of_beq hx)) (eq_of_beq hy)
  rw [heq]
  rfl

theorem mem_iff_of_filter_ties {xs ys : List α}
    (h : ∀ a, xs.filter (ties cmp a) = ys.filter (ties cmp a)) (a : α) : a ∈ xs ↔ a ∈ ys := by
  have ha : a ∈ xs.filter (ties cmp a) ↔ a ∈ ys.filter (ties cmp a) := by rw [h a]
  simpa using ha

/-- Sorted lists are equal if they list the same elements wherever these tie. -/
theorem eq_of_filter_ties {xs ys : List α} (hxs : xs.Pairwise fun a b => (cmp a b).isLE)
    (hys : ys.Pairwise fun a b => (cmp a b).isLE)
    (h : ∀ a, xs.filter (ties cmp a) = ys.filter (ties cmp a)) : xs = ys := by
  induction xs generalizing ys with
  | nil =>
    refine (List.eq_nil_iff_forall_not_mem.mpr fun a ha => ?_).symm
    exact List.not_mem_nil ((mem_iff_of_filter_ties h a).mpr ha)
  | cons x xs ih =>
    obtain ⟨hx, hxs'⟩ := List.pairwise_cons.mp hxs
    have hmem := mem_iff_of_filter_ties h
    cases ys with
    | nil => exact (List.not_mem_nil ((hmem x).mp List.mem_cons_self)).elim
    | cons y ys =>
      obtain ⟨hy, hys'⟩ := List.pairwise_cons.mp hys
      -- the first elements do not go after each other, so each list has its own first among ties
      have hle : (cmp x y).isLE := by
        rcases List.mem_cons.mp ((hmem y).mpr List.mem_cons_self) with rfl | hmem
        · exact Std.ReflCmp.isLE_rfl
        · exact hx y hmem
      have hge : (cmp y x).isLE := by
        rcases List.mem_cons.mp ((hmem x).mp List.mem_cons_self) with rfl | hmem
        · exact Std.ReflCmp.isLE_rfl
        · exact hy x hmem
      have hties : ties cmp x y = true :=
        beq_iff_eq.mpr (Std.OrientedCmp.isLE_antisymm hle hge)
      have hfirst := h x
      rw [List.filter_cons_of_pos (ties_self x), List.filter_cons_of_pos hties] at hfirst
      obtain rfl : x = y := (List.cons.inj hfirst).1
      have hrest : ∀ a, xs.filter (ties cmp a) = ys.filter (ties cmp a) := by
        intro a
        have ha := h a
        rw [List.filter_cons, List.filter_cons] at ha
        split at ha
        · exact (List.cons.inj ha).2
        · exact ha
      rw [ih hxs' hys' hrest]

/-- Sorting a sorted list after each of two turns of a map that undoes itself and keeps ties. -/
theorem stableSortBy_map_involutive {xs : List α} (hxs : xs.Pairwise fun a b => (cmp a b).isLE)
    {f : α → α} (hf : Function.Involutive f)
    (hties : ∀ x y, cmp x y = .eq → cmp (f x) (f y) = .eq) :
    stableSortBy cmp ((stableSortBy cmp (xs.map f)).map f) = xs := by
  refine eq_of_filter_ties (stableSortBy_sorted cmp _) hxs fun a => ?_
  have hturn : ∀ a, ties cmp a ∘ f = ties cmp (f a) := by
    intro a
    funext b
    refine Bool.eq_iff_iff.mpr ⟨fun h => ?_, fun h => ?_⟩
    · have heq := hties a (f b) (eq_of_beq h)
      rw [hf b] at heq
      exact beq_iff_eq.mpr heq
    · have heq := hties (f a) b (eq_of_beq h)
      rw [hf a] at heq
      exact beq_iff_eq.mpr heq
  calc (stableSortBy cmp ((stableSortBy cmp (xs.map f)).map f)).filter (ties cmp a)
      = ((stableSortBy cmp (xs.map f)).map f).filter (ties cmp a) := filter_ties_stableSortBy a _
    _ = ((stableSortBy cmp (xs.map f)).filter (ties cmp (f a))).map f := by
        rw [List.filter_map, hturn]
    _ = ((xs.map f).filter (ties cmp (f a))).map f := by rw [filter_ties_stableSortBy]
    _ = ((xs.filter (ties cmp a)).map f).map f := by rw [List.filter_map, hturn, hf a]
    _ = xs.filter (ties cmp a) := by rw [List.map_map, hf.comp_self, List.map_id]

end Ties

end PropertyGraph
