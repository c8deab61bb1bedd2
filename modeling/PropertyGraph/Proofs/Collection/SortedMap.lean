import Mathlib.Data.List.Forall2
import Mathlib.Data.List.Nodup
import PropertyGraph.Collection.SortedMap

/-!
# Sorted maps through their lookups

A `SortedMap` is known from its lookups alone: `SortedMap.ext_find?` says that two maps in which
every key is looked up alike are equal.  So a change of a map is described by the lookups after it
(`find?_insert`, `find?_erase`), and `find?_eq_some_iff` goes between lookups and entries.
-/

namespace PropertyGraph

variable {κ α : Type}

/-! ### Lists of entries -/

namespace Entries

variable [DecidableEq κ]

theorem mem_of_find?_eq_some {k : κ} {v : α} {entries : List (κ × α)}
    (h : find? k entries = some v) : (k, v) ∈ entries := by
  induction entries with
  | nil => simp [find?] at h
  | cons first rest ih =>
    rw [find?] at h
    split at h
    · next heq =>
      obtain rfl := Option.some.inj h
      rw [← heq]
      exact List.mem_cons_self
    · exact List.mem_cons_of_mem _ (ih h)

theorem find?_eq_none_iff {k : κ} {entries : List (κ × α)} :
    find? k entries = none ↔ k ∉ entries.map Prod.fst := by
  induction entries with
  | nil => simp [find?]
  | cons first rest ih =>
    rw [find?, List.map_cons, List.mem_cons, not_or, ← ih]
    split_ifs with heq
    · exact iff_of_false not_false fun h => h.1 heq.symm
    · exact (and_iff_right (Ne.symm heq)).symm

theorem find?_eq_some_of_nodup {k : κ} {v : α} {entries : List (κ × α)}
    (hnodup : (entries.map Prod.fst).Nodup) (h : (k, v) ∈ entries) : find? k entries = some v := by
  induction entries with
  | nil => simp at h
  | cons first rest ih =>
    obtain ⟨hnew, hrest⟩ := List.nodup_cons.mp hnodup
    rw [find?]
    rcases List.mem_cons.mp h with rfl | hmem
    · exact if_pos rfl
    · have hne : first.1 ≠ k := fun heq => hnew (heq ▸ List.mem_map_of_mem hmem)
      rw [if_neg hne]
      exact ih hrest hmem

variable [Ord κ]

omit [DecidableEq κ] in
theorem nodup_keys_of_sorted [Std.LawfulEqOrd κ] {entries : List (κ × α)} (hs : Sorted entries) :
    (entries.map Prod.fst).Nodup := by
  refine List.pairwise_map.mpr (List.Pairwise.imp (fun {a b} hlt heq => ?_) hs)
  rw [heq] at hlt
  simp at hlt

/-- A lookup in sorted entries succeeds exactly with the entry of the key. -/
theorem find?_eq_some_iff [Std.LawfulEqOrd κ] {k : κ} {v : α} {entries : List (κ × α)}
    (hs : Sorted entries) : find? k entries = some v ↔ (k, v) ∈ entries :=
  ⟨mem_of_find?_eq_some, find?_eq_some_of_nodup (nodup_keys_of_sorted hs)⟩

omit [DecidableEq κ] in
theorem nodup_of_sorted [Std.LawfulEqOrd κ] {entries : List (κ × α)} (hs : Sorted entries) :
    entries.Nodup := List.Nodup.of_map _ (nodup_keys_of_sorted hs)

/-- Sorted lists of entries in which every key is looked up alike are equal. -/
theorem eq_of_find?_eq [Std.TransOrd κ] [Std.LawfulEqOrd κ] {es es' : List (κ × α)}
    (hs : Sorted es) (hs' : Sorted es') (h : ∀ k, find? k es = find? k es') : es = es' := by
  have hperm : es.Perm es' := by
    rw [List.perm_ext_iff_of_nodup (nodup_of_sorted hs) (nodup_of_sorted hs')]
    rintro ⟨k, v⟩
    rw [← find?_eq_some_iff hs, ← find?_eq_some_iff hs', h]
  refine List.Perm.eq_of_pairwise (fun a b _ _ hab hba => ?_) hs hs' hperm
  exact absurd hba (Std.OrientedCmp.not_lt_of_lt hab)

end Entries

/-! ### Maps -/

namespace SortedMap

variable [Ord κ] [DecidableEq κ]

theorem find?_erase (m : SortedMap κ α) (k k' : κ) :
    (m.erase k).find? k' = if k' = k then none else m.find? k' := by
  by_cases h : k' = k
  · rw [if_pos h, h, find?_erase_self]
  · rw [if_neg h, find?_erase_of_ne m (Ne.symm h)]

/-! ### Changes one after the other -/

/-- Steps that each set the lookup of one key, to a value that depends on the key only. -/
theorem find?_foldl {δ : Type} {step : SortedMap κ α → δ → SortedMap κ α} {ds : List δ}
    (key : δ → κ) (after : κ → Option α)
    (hstep : ∀ d ∈ ds, ∀ m k,
      (step m d).find? k = if k = key d then after k else m.find? k)
    (m : SortedMap κ α) (k : κ) :
    (ds.foldl step m).find? k = if k ∈ ds.map key then after k else m.find? k := by
  induction ds generalizing m with
  | nil => rfl
  | cons d rest ih =>
    rw [List.foldl_cons, ih fun d hd => hstep d (List.mem_cons_of_mem _ hd), List.map_cons]
    by_cases hrest : k ∈ rest.map key
    · rw [if_pos hrest, if_pos (List.mem_cons_of_mem _ hrest)]
    · rw [if_neg hrest, hstep d List.mem_cons_self]
      by_cases hk : k = key d
      · rw [if_pos hk, if_pos (hk ▸ List.mem_cons_self)]
      · rw [if_neg hk, if_neg (List.not_mem_cons_of_ne_of_not_mem hk hrest)]

/-- Steps that each set the lookup of one key, no two the same one.  What a step asks of its key
has to hold before the first one only. -/
theorem find?_foldlM {δ ε : Type} {step : SortedMap κ α → δ → Except ε (SortedMap κ α)}
    {ds : List δ} (key : δ → κ) (before after : κ → Option α)
    (hstep : ∀ d ∈ ds, ∀ m, m.find? (key d) = before (key d) →
      ∃ m', step m d = .ok m' ∧ ∀ k, m'.find? k = if k = key d then after k else m.find? k)
    (hnodup : (ds.map key).Nodup) {m : SortedMap κ α}
    (hm : ∀ d ∈ ds, m.find? (key d) = before (key d)) :
    ∃ m', ds.foldlM step m = .ok m' ∧
      ∀ k, m'.find? k = if k ∈ ds.map key then after k else m.find? k := by
  induction ds generalizing m with
  | nil => exact ⟨m, rfl, fun k => rfl⟩
  | cons d rest ih =>
    obtain ⟨hnew, hrest⟩ := List.nodup_cons.mp hnodup
    obtain ⟨m₁, hd, hm₁⟩ := hstep d List.mem_cons_self m (hm d List.mem_cons_self)
    have hm₁rest : ∀ d' ∈ rest, m₁.find? (key d') = before (key d') := by
      intro d' hd'
      have hne : key d' ≠ key d := fun heq => hnew (heq ▸ List.mem_map_of_mem hd')
      rw [hm₁, if_neg hne, hm d' (List.mem_cons_of_mem _ hd')]
    obtain ⟨m', hfold, hm'⟩ :=
      ih (fun d' hd' => hstep d' (List.mem_cons_of_mem _ hd')) hrest hm₁rest
    refine ⟨m', ?_, fun k => ?_⟩
    · rw [List.foldlM_cons, hd]
      exact hfold
    · rw [hm', hm₁, List.map_cons]
      by_cases hk : k = key d
      · rw [if_neg (hk ▸ hnew), if_pos hk, if_pos (hk ▸ List.mem_cons_self)]
      · rw [if_neg hk]
        simp only [List.mem_cons, hk, false_or]

/-! ### Lookups and entries -/

variable [Std.LawfulEqOrd κ]

theorem find?_eq_some_iff {m : SortedMap κ α} {k : κ} {v : α} :
    m.find? k = some v ↔ (k, v) ∈ m.entries :=
  Entries.find?_eq_some_iff m.sorted

theorem mem_keys_iff {m : SortedMap κ α} {k : κ} : k ∈ m.keys ↔ (m.find? k).isSome := by
  rw [keys, List.mem_map, Option.isSome_iff_exists]
  constructor
  · rintro ⟨⟨k', v⟩, hmem, rfl⟩
    exact ⟨v, find?_eq_some_iff.mpr hmem⟩
  · rintro ⟨v, hv⟩
    exact ⟨(k, v), find?_eq_some_iff.mp hv, rfl⟩

omit [DecidableEq κ] in
theorem nodup_keys (m : SortedMap κ α) : m.keys.Nodup := Entries.nodup_keys_of_sorted m.sorted

theorem mem_values_iff {m : SortedMap κ α} {v : α} : v ∈ m.values ↔ ∃ k, m.find? k = some v := by
  rw [values, List.mem_map]
  constructor
  · rintro ⟨⟨k, v⟩, hmem, rfl⟩
    exact ⟨k, find?_eq_some_iff.mpr hmem⟩
  · rintro ⟨k, hk⟩
    exact ⟨(k, v), find?_eq_some_iff.mp hk, rfl⟩

/-- Every value is under the key that it tells. -/
def KeyedBy (m : SortedMap κ α) (f : α → κ) : Prop := ∀ {k v}, m.find? k = some v → f v = k

/-- Where the values tell their keys, the values in their order stand for the keys. -/
theorem KeyedBy.map_values {m : SortedMap κ α} {f : α → κ} (h : m.KeyedBy f) :
    m.values.map f = m.keys := by
  rw [values, keys, List.map_map]
  exact List.map_congr_left fun e he => h (find?_eq_some_iff.mpr he)

theorem KeyedBy.nodup {m : SortedMap κ α} {f : α → κ} (h : m.KeyedBy f) :
    (m.values.map f).Nodup := by
  rw [h.map_values]
  exact m.nodup_keys

theorem KeyedBy.mem_values {m : SortedMap κ α} {f : α → κ} (h : m.KeyedBy f) {v : α} :
    v ∈ m.values ↔ m.find? (f v) = some v := by
  refine mem_values_iff.trans ⟨fun ⟨k, hv⟩ => ?_, fun hv => ⟨f v, hv⟩⟩
  rwa [h hv]

variable [Std.TransOrd κ]

/-- Two maps are equal if every key is looked up alike in them. -/
theorem ext_find? {m m' : SortedMap κ α} (h : ∀ k, m.find? k = m'.find? k) : m = m' := by
  obtain ⟨entries, hs⟩ := m
  obtain ⟨entries', hs'⟩ := m'
  obtain rfl := Entries.eq_of_find?_eq hs hs' h
  rfl

theorem find?_insert (m : SortedMap κ α) (k k' : κ) (v : α) :
    (m.insert k v).find? k' = if k' = k then some v else m.find? k' := by
  by_cases h : k' = k
  · rw [if_pos h, h, find?_insert_self]
  · rw [if_neg h, find?_insert_of_ne m (Ne.symm h)]

theorem insert_insert (m : SortedMap κ α) (k : κ) (v w : α) :
    (m.insert k v).insert k w = m.insert k w := by
  refine ext_find? fun k' => ?_
  simp only [find?_insert]
  split_ifs <;> rfl

theorem insert_eq_self_iff {m : SortedMap κ α} {k : κ} {v : α} :
    m.insert k v = m ↔ m.find? k = some v := by
  constructor
  · intro h
    rw [← h, find?_insert_self]
  · intro h
    refine ext_find? fun k' => ?_
    rw [find?_insert]
    split_ifs with hk
    · rw [hk, h]
    · rfl

/-- Inserting entries under different keys puts them before what was there. -/
theorem find?_foldl_insert {entries : List (κ × α)} (hnodup : (entries.map Prod.fst).Nodup)
    (m : SortedMap κ α) (k : κ) :
    (entries.foldl (fun m e => m.insert e.1 e.2) m).find? k
      = (Entries.find? k entries).or (m.find? k) := by
  have hinsert : ∀ e ∈ entries, ∀ (m : SortedMap κ α) k,
      (m.insert e.1 e.2).find? k = if k = e.1 then Entries.find? k entries else m.find? k := by
    intro e he m k
    rw [find?_insert]
    split_ifs with hk
    · rw [hk, Entries.find?_eq_some_of_nodup hnodup he]
    · rfl
  rw [find?_foldl Prod.fst (fun k => Entries.find? k entries) hinsert]
  split_ifs with hk
  · obtain ⟨v, hv⟩ := Option.ne_none_iff_exists'.mp (mt Entries.find?_eq_none_iff.mp (not_not.mpr hk))
    rw [hv]
    rfl
  · rw [Entries.find?_eq_none_iff.mpr hk]
    rfl

/-- A map made from entries under different keys looks up what is listed. -/
theorem find?_ofList {entries : List (κ × α)} (hnodup : (entries.map Prod.fst).Nodup) (k : κ) :
    (ofList entries).find? k = Entries.find? k entries :=
  (find?_foldl_insert hnodup empty k).trans Option.or_none

/-- The entries of a map make up this map. -/
theorem ofList_entries (m : SortedMap κ α) : ofList m.entries = m :=
  ext_find? fun k => find?_ofList m.nodup_keys k

theorem find?_union (m m' : SortedMap κ α) (k : κ) :
    (m.union m').find? k = (m'.find? k).or (m.find? k) :=
  find?_foldl_insert (Entries.nodup_keys_of_sorted m'.sorted) m k

/-- A map made from keys and a function has just these keys. -/
theorem find?_ofList_map (keys : List κ) (f : κ → α) (k : κ) :
    (ofList (keys.map fun key => (key, f key))).find? k
      = if k ∈ keys then some (f k) else none := by
  have hinsert : ∀ key ∈ keys, ∀ (m : SortedMap κ α) k,
      (m.insert key (f key)).find? k = if k = key then some (f k) else m.find? k := by
    intro key _ m k
    rw [find?_insert]
    split_ifs with hk
    · rw [hk]
    · rfl
  rw [ofList, List.foldl_map, find?_foldl id (fun k => some (f k)) hinsert, List.map_id, find?_empty]

/-! ### Maps of elements that tell their keys -/

section Elements

variable {key : α → κ} {xs : List α}

theorem find?_ofList_elements (hnodup : (xs.map key).Nodup) {k : κ} {x : α} :
    (ofList (xs.map fun x => (key x, x))).find? k = some x ↔ x ∈ xs ∧ key x = k := by
  have hkeys : (xs.map fun x => (key x, x)).map Prod.fst = xs.map key := List.map_map
  rw [find?_ofList (hkeys ▸ hnodup)]
  constructor
  · intro h
    obtain ⟨y, hy, heq⟩ := List.mem_map.mp (Entries.mem_of_find?_eq_some h)
    obtain ⟨rfl, rfl⟩ := Prod.mk.inj heq
    exact ⟨hy, rfl⟩
  · rintro ⟨hx, rfl⟩
    exact Entries.find?_eq_some_of_nodup (hkeys ▸ hnodup) (List.mem_map.mpr ⟨x, hx, rfl⟩)

theorem KeyedBy.insert {m : SortedMap κ α} (h : m.KeyedBy key) (x : α) :
    (m.insert (key x) x).KeyedBy key := by
  intro k y hy
  rw [find?_insert] at hy
  split_ifs at hy with hk
  · rw [← Option.some.inj hy, hk]
  · exact h hy

/-- Of elements with one key the last one is looked up. -/
theorem keyedBy_ofList (xs : List α) : (ofList (xs.map fun x => (key x, x))).KeyedBy key := by
  have hinsert : ∀ m : SortedMap κ α, m.KeyedBy key →
      (xs.foldl (fun m x => m.insert (key x) x) m).KeyedBy key := by
    induction xs with
    | nil => exact fun m h => h
    | cons x rest ih => exact fun m h => ih _ (h.insert x)
  have hempty : (empty : SortedMap κ α).KeyedBy key := fun h => by cases h
  intro k x hx
  rw [ofList, List.foldl_map] at hx
  exact hinsert empty hempty hx

/-- Elements in the order of their keys come out of the map as they are. -/
theorem values_ofList (hnodup : (xs.map key).Nodup)
    (hsorted : xs.Pairwise fun x y => (compare (key x) (key y)).isLE) :
    (ofList (xs.map fun x => (key x, x))).values = xs := by
  have hkeyed : (ofList (xs.map fun x => (key x, x))).KeyedBy key := keyedBy_ofList xs
  have hperm : (ofList (xs.map fun x => (key x, x))).values.Perm xs := by
    rw [List.perm_ext_iff_of_nodup (List.Nodup.of_map _ hkeyed.nodup) (List.Nodup.of_map _ hnodup)]
    intro x
    rw [hkeyed.mem_values, find?_ofList_elements hnodup]
    exact and_iff_left rfl
  have hvalues : (ofList (xs.map fun x => (key x, x))).values.Pairwise
      fun x y => compare (key x) (key y) = .lt := by
    have hkeys : (ofList (xs.map fun x => (key x, x))).keys.Pairwise
        fun k k' => compare k k' = .lt := List.pairwise_map.mpr (ofList _).sorted
    rw [← hkeyed.map_values] at hkeys
    exact List.pairwise_map.mp hkeys
  have hlt : xs.Pairwise fun x y => compare (key x) (key y) = .lt := by
    refine hsorted.imp₂ (fun x y hle hne => ?_) (List.pairwise_map.mp hnodup)
    cases hcmp : compare (key x) (key y) with
    | lt => rfl
    | eq => exact (hne (Std.LawfulEqOrd.eq_of_compare hcmp)).elim
    | gt => rw [hcmp] at hle; cases hle
  refine List.Perm.eq_of_pairwise (fun x y _ _ hxy hyx => ?_) hvalues hlt hperm
  exact absurd hyx (Std.OrientedCmp.not_lt_of_lt hxy)

theorem KeyedBy.ofList_values {m : SortedMap κ α} (h : m.KeyedBy key) :
    ofList (m.values.map fun x => (key x, x)) = m := by
  refine ext_find? fun k => Option.ext fun x => ?_
  rw [find?_ofList_elements h.nodup, h.mem_values]
  constructor
  · rintro ⟨hx, rfl⟩
    exact hx
  · intro hx
    rw [h hx]
    exact ⟨hx, rfl⟩

end Elements

/-! ### Maps that are alike at every key -/

omit [Std.TransOrd κ] in
/-- The entries are the keys with their lookups. -/
theorem entries_eq (m : SortedMap κ α) :
    m.entries = m.keys.filterMap fun k => (m.find? k).map (Prod.mk k) := by
  rw [keys, List.filterMap_map]
  refine Eq.symm ((List.filterMap_congr fun e he => ?_).trans List.filterMap_some)
  exact congrArg (Option.map (Prod.mk e.1)) (find?_eq_some_iff.mpr he)

theorem isSome_eq_of_rel {β : Type} {R : α → β → Prop} {x : Option α} {y : Option β}
    (h : Option.Rel R x y) : x.isSome = y.isSome := by
  cases h <;> rfl

theorem keys_eq_of_isSome_eq {β : Type} {m : SortedMap κ α} {m' : SortedMap κ β}
    (h : ∀ k, (m.find? k).isSome = (m'.find? k).isSome) : m.keys = m'.keys := by
  have hperm : m.keys.Perm m'.keys := by
    rw [List.perm_ext_iff_of_nodup m.nodup_keys m'.nodup_keys]
    intro k
    rw [mem_keys_iff, mem_keys_iff, h]
  have hlt : m.keys.Pairwise fun a b => compare a b = .lt := List.pairwise_map.mpr m.sorted
  have hlt' : m'.keys.Pairwise fun a b => compare a b = .lt := List.pairwise_map.mpr m'.sorted
  refine List.Perm.eq_of_pairwise (fun a b _ _ hab hba => ?_) hlt hlt' hperm
  exact absurd hba (Std.OrientedCmp.not_lt_of_lt hab)

/-- Where lookups are related, so are the entries in their order. -/
theorem forall₂_entries {β : Type} {R : α → β → Prop} {m : SortedMap κ α} {m' : SortedMap κ β}
    (h : ∀ k, Option.Rel R (m.find? k) (m'.find? k)) :
    List.Forall₂ (fun e e' => e.1 = e'.1 ∧ R e.2 e'.2) m.entries m'.entries := by
  have hkeys : m.keys = m'.keys := keys_eq_of_isSome_eq fun k => isSome_eq_of_rel (h k)
  rw [m.entries_eq, m'.entries_eq, hkeys]
  refine List.rel_filterMap (R := Eq) (fun k k' hk => ?_) (List.forall₂_refl _)
  obtain rfl := hk
  have hk := h k
  generalize m.find? k = x, m'.find? k = y at hk
  cases hk with
  | some hr => exact .some ⟨rfl, hr⟩
  | none => exact .none

theorem forall₂_values {β : Type} {R : α → β → Prop} {m : SortedMap κ α} {m' : SortedMap κ β}
    (h : ∀ k, Option.Rel R (m.find? k) (m'.find? k)) : List.Forall₂ R m.values m'.values :=
  List.forall₂_map_left_iff.mpr (List.forall₂_map_right_iff.mpr
    ((forall₂_entries h).imp fun _ _ => And.right))

/-! ### Lists of elements that are alike -/

section Elements

variable {key : α → κ} {xs ys : List α}

theorem mem_names_iff (hnodup : (xs.map key).Nodup) {k : κ} :
    k ∈ xs.map key ↔ ((ofList (xs.map fun x => (key x, x))).find? k).isSome := by
  rw [Option.isSome_iff_exists, List.mem_map]
  exact exists_congr fun x => (find?_ofList_elements hnodup).symm

/-- Elements are related key by key if the lists name the same ones and those of one name are related. -/
theorem rel_elements_iff {R : α → α → Prop} (hxs : (xs.map key).Nodup) (hys : (ys.map key).Nodup) :
    (∀ k, Option.Rel R ((ofList (xs.map fun x => (key x, x))).find? k)
        ((ofList (ys.map fun y => (key y, y))).find? k)) ↔
      (∀ k, k ∈ xs.map key ↔ k ∈ ys.map key) ∧ ∀ x ∈ xs, ∀ y ∈ ys, key x = key y → R x y := by
  constructor
  · intro h
    refine ⟨fun k => ?_, fun x hx y hy hkey => ?_⟩
    · rw [mem_names_iff hxs, mem_names_iff hys, isSome_eq_of_rel (h k)]
    · have hk := h (key y)
      rw [(find?_ofList_elements hxs).mpr ⟨hx, hkey⟩,
        (find?_ofList_elements hys).mpr ⟨hy, rfl⟩] at hk
      cases hk with
      | some hr => exact hr
  · rintro ⟨hnames, hrelated⟩ k
    have hk := hnames k
    rw [mem_names_iff hxs, mem_names_iff hys] at hk
    cases hx : (ofList (xs.map fun x => (key x, x))).find? k with
    | none =>
      rw [hx] at hk
      cases hy : (ofList (ys.map fun y => (key y, y))).find? k with
      | none => exact .none
      | some y =>
        rw [hy] at hk
        cases hk.mpr rfl
    | some x =>
      rw [hx] at hk
      obtain ⟨y, hy⟩ := Option.isSome_iff_exists.mp (hk.mp rfl)
      rw [hy]
      obtain ⟨hxmem, hxkey⟩ := (find?_ofList_elements hxs).mp hx
      obtain ⟨hymem, hykey⟩ := (find?_ofList_elements hys).mp hy
      exact .some (hrelated x hxmem y hymem (hxkey.trans hykey.symm))

end Elements

end SortedMap

theorem Entries.ofList_eq_entries [Ord κ] [Std.TransOrd κ] (entries : List (κ × α)) :
    ofList entries = (SortedMap.ofList entries).entries := by
  have hfold (m : SortedMap κ α) : entries.foldl (fun acc e => insert e.1 e.2 acc) m.entries
      = (entries.foldl (fun m e => m.insert e.1 e.2) m).entries := by
    induction entries generalizing m with
    | nil => rfl
    | cons e rest ih => exact ih (m.insert e.1 e.2)
  exact hfold .empty

/-- A list of entries in the order of their keys stays as it is. -/
theorem Entries.ofList_of_sorted [Ord κ] [DecidableEq κ] [Std.TransOrd κ] [Std.LawfulEqOrd κ]
    {entries : List (κ × α)} (h : Sorted entries) : ofList entries = entries := by
  rw [ofList_eq_entries, SortedMap.ofList_entries ⟨entries, h⟩]

end PropertyGraph
