/-!
# Stable sorting

`stableSort` takes the elements from left to right and moves each one left past the elements that
must follow it, and no further.  Elements that are neither before nor after each other keep their
order.
-/

namespace PropertyGraph

variable {α : Type}

/-- Puts `x` at the end of a sorted list given in reverse, past the elements it must precede. -/
def settle (before : α → α → Bool) (x : α) : List α → List α
  | [] => [x]
  | last :: rest => if before x last then last :: settle before x rest else x :: last :: rest

/-- Sorts by a strict order, keeping the order of elements that are equal in it. -/
def stableSort (before : α → α → Bool) (xs : List α) : List α :=
  (xs.foldl (fun sorted x => settle before x sorted) []).reverse

/-- Sorts by a comparison. -/
def stableSortBy (cmp : α → α → Ordering) (xs : List α) : List α :=
  stableSort (fun a b => cmp a b == .lt) xs

theorem settle_perm (before : α → α → Bool) (x : α) (xs : List α) :
    (settle before x xs).Perm (x :: xs) := by
  induction xs with
  | nil => exact List.Perm.refl _
  | cons last rest ih =>
    rw [settle]
    split
    · exact (ih.cons last).trans (List.Perm.swap x last rest)
    · exact List.Perm.refl _

theorem stableSort_perm (before : α → α → Bool) (xs : List α) :
    (stableSort before xs).Perm xs := by
  have key : ∀ (ys acc : List α),
      (ys.foldl (fun sorted x => settle before x sorted) acc).Perm (ys ++ acc) := by
    intro ys
    induction ys with
    | nil => exact fun acc => List.Perm.refl _
    | cons y ys ih =>
      intro acc
      exact (ih _).trans (((settle_perm before y acc).append_left ys).trans List.perm_middle)
  simpa [stableSort] using (List.reverse_perm _).trans (key xs [])

/-- Settling keeps a list, given in reverse, in order. -/
theorem settle_sorted {cmp : α → α → Ordering} [Std.TransCmp cmp] (x : α) {xs : List α}
    (h : xs.Pairwise fun a b => (cmp b a).isLE) :
    (settle (fun a b => cmp a b == .lt) x xs).Pairwise fun a b => (cmp b a).isLE := by
  induction xs with
  | nil => exact List.pairwise_singleton ..
  | cons last rest ih =>
    obtain ⟨hlast, hrest⟩ := List.pairwise_cons.mp h
    rw [settle]
    split
    · next hbefore =>
      have hx : (cmp x last).isLE := by
        rw [eq_of_beq hbefore]
        rfl
      refine List.pairwise_cons.mpr ⟨fun y hy => ?_, ih hrest⟩
      rcases List.mem_cons.mp ((settle_perm _ x rest).mem_iff.mp hy) with rfl | hy
      · exact hx
      · exact hlast y hy
    · next hbefore =>
      have hx : (cmp last x).isLE := by
        rw [← Std.OrientedCmp.isGE_eq_isLE]
        cases hcmp : cmp x last with
        | lt => exact (hbefore (beq_iff_eq.mpr hcmp)).elim
        | eq => rfl
        | gt => rfl
      refine List.pairwise_cons.mpr ⟨fun y hy => ?_, h⟩
      rcases List.mem_cons.mp hy with rfl | hy
      · exact hx
      · exact Std.TransCmp.isLE_trans (hlast y hy) hx

theorem stableSortBy_sorted (cmp : α → α → Ordering) [Std.TransCmp cmp] (xs : List α) :
    (stableSortBy cmp xs).Pairwise fun a b => (cmp a b).isLE := by
  have key : ∀ (ys acc : List α), (acc.Pairwise fun a b => (cmp b a).isLE) →
      (ys.foldl (fun sorted x => settle (fun a b => cmp a b == .lt) x sorted) acc).Pairwise
        fun a b => (cmp b a).isLE := by
    intro ys
    induction ys with
    | nil => exact fun acc h => h
    | cons y ys ih => exact fun acc h => ih _ (settle_sorted y h)
  exact List.pairwise_reverse.mpr (key xs [] List.Pairwise.nil)

end PropertyGraph
