import PropertyGraph.Projection.Flatten
import PropertyGraph.Proofs.Collection.SortedMap
import PropertyGraph.Value.Path

/-!
# Paths and their segments

A path is known from its segments (`pathSegments_injective`).  A key that is neither empty nor holds
a dot (`IsPlainKey`) is a path of one segment, and a path with such a key behind a dot has the key
as one segment more (`pathSegments_append`).  Following segments is following some of them and then
the others (`Value.follow?_append`), and from a value whose maps are in order it leads to such
values (`Value.Canonical.follow?`).
-/

namespace PropertyGraph

/-! ### Splitting -/

theorem splitOn_eq (mark : Char) (text : List Char) : splitOn mark text = text.splitOn mark := by
  induction text with
  | nil => rfl
  | cons c rest ih =>
    obtain ⟨first, others, hrest⟩ := List.exists_cons_of_ne_nil (List.splitOn_ne_nil mark rest)
    rw [splitOn, List.splitOn_cons_eq_if_modifyHead, ih, hrest]
    simp only [beq_iff_eq, List.modifyHead_cons]

theorem pathSegments_eq (path : String) :
    pathSegments path = (path.toList.splitOn '.').map String.ofList := by
  rw [pathSegments, splitOn_eq]

theorem pathSegments_append (path rest : String) :
    pathSegments (path ++ "." ++ rest) = pathSegments path ++ pathSegments rest := by
  have hlist : (path ++ "." ++ rest).toList = path.toList ++ '.' :: rest.toList := by simp
  simp only [pathSegments_eq, hlist, List.splitOn_append_cons_self, List.map_append]

theorem pathSegments_of_notMem {key : String} (h : '.' ∉ key.toList) :
    pathSegments key = [key] := by
  rw [pathSegments_eq, List.splitOn_eq_singleton h, List.map_singleton, String.ofList_toList]

theorem pathSegments_injective : Function.Injective pathSegments := by
  intro path path' h
  rw [pathSegments_eq, pathSegments_eq] at h
  have hsplit := List.map_injective_iff.mpr (fun _ _ => String.ofList_injective) h
  have hlist := congrArg (List.intercalate ['.']) hsplit
  rw [List.intercalate_splitOn, List.intercalate_splitOn] at hlist
  exact String.toList_injective hlist

/-- A key that is a path of one segment, and not an empty one. -/
structure IsPlainKey (key : String) : Prop where
  ne_empty : key ≠ ""
  noDot : '.' ∉ key.toList

theorem IsPlainKey.pathSegments {key : String} (h : IsPlainKey key) : pathSegments key = [key] :=
  pathSegments_of_notMem h.noDot

/-- The segments of a path with something in them. -/
def filledSegments (path : String) : List String :=
  (pathSegments path).filter fun segment => !segment.isEmpty

theorem filledSegments_append (path rest : String) :
    filledSegments (path ++ "." ++ rest) = filledSegments path ++ filledSegments rest := by
  rw [filledSegments, pathSegments_append, List.filter_append]
  rfl

theorem filledSegments_of_notMem {path : String} (h : "" ∉ pathSegments path) :
    filledSegments path = pathSegments path := by
  refine List.filter_eq_self.mpr fun segment hsegment => ?_
  have hne : segment ≠ "" := fun heq => h (heq ▸ hsegment)
  simpa using hne

theorem IsPlainKey.filledSegments {key : String} (h : IsPlainKey key) :
    filledSegments key = [key] := by
  rw [filledSegments_of_notMem, h.pathSegments]
  rw [h.pathSegments, List.mem_singleton]
  exact h.ne_empty.symm

namespace Value

/-! ### Following segments -/

theorem follow?_append (v : Value) (front back : List String) :
    v.follow? (front ++ back) = (v.follow? front).bind fun w => w.follow? back := by
  induction front generalizing v with
  | nil => rfl
  | cons segment rest ih =>
    rw [List.cons_append, follow?, follow?, Option.bind_assoc]
    exact Option.bind_congr fun w _ => ih w

theorem follow?_singleton (v : Value) (segment : String) :
    v.follow? [segment] = v.segment? segment :=
  Option.bind_fun_some _

theorem path?_of_notMem (v : Value) {key : String} (h : '.' ∉ key.toList) :
    v.path? key = v.segment? key := by
  rw [path?, pathSegments_of_notMem h, follow?_singleton]

theorem path?_append (v : Value) (path rest : String) :
    v.path? (path ++ "." ++ rest) = (v.path? path).bind fun w => w.path? rest := by
  rw [path?, pathSegments_append, follow?_append]
  rfl

theorem lookup?_eq (row : Value) (field : String) :
    row.lookup? field = (row.path? field).or (row.path? ("properties" ++ "." ++ field)) := by
  have hbelow : row.path? ("properties" ++ "." ++ field)
      = (row.segment? "properties").bind fun p => p.path? field := by
    rw [path?_append, path?_of_notMem row (by decide)]
  unfold lookup?
  rw [hbelow]
  cases row.path? field with
  | some v => rfl
  | none => cases row <;> rfl

/-! ### Keys below a path -/

theorem pathTo_empty (key : String) : pathTo "" key = key := rfl

theorem pathTo_of_ne_empty {path : String} (h : path ≠ "") (key : String) :
    pathTo path key = path ++ "." ++ key := if_neg (mt String.isEmpty_iff.mp h)

theorem pathTo_injective (path : String) : Function.Injective (pathTo path) := by
  intro key key' h
  by_cases hpath : path = ""
  · subst hpath
    exact h
  · rw [pathTo_of_ne_empty hpath, pathTo_of_ne_empty hpath] at h
    simpa using h

/-! ### Values whose maps are in order -/

theorem CanonicalItems.of_mem {items : List Value} (h : CanonicalItems items) {v : Value}
    (hv : v ∈ items) : v.Canonical := by
  induction items with
  | nil => cases hv
  | cons first rest ih =>
    rcases List.mem_cons.mp hv with rfl | hrest
    · exact h.1
    · exact ih h.2 hrest

theorem CanonicalEntries.of_mem {entries : List (String × Value)} (h : CanonicalEntries entries)
    {e : String × Value} (he : e ∈ entries) : e.2.Canonical := by
  induction entries with
  | nil => cases he
  | cons first rest ih =>
    rcases List.mem_cons.mp he with rfl | hrest
    · exact h.1
    · exact ih h.2 hrest

theorem Canonical.segment? {v w : Value} (h : v.Canonical) {segment : String}
    (hw : v.segment? segment = some w) : w.Canonical := by
  cases v with
  | map entries => exact h.2.of_mem (Entries.mem_of_find?_eq_some hw)
  | list items =>
    obtain ⟨i, -, hi⟩ := Option.bind_eq_some_iff.mp hw
    exact CanonicalItems.of_mem h (List.mem_of_getElem? hi)
  | _ => cases hw

theorem Canonical.follow? {v w : Value} (h : v.Canonical) {segments : List String}
    (hw : v.follow? segments = some w) : w.Canonical := by
  induction segments generalizing v with
  | nil => exact Option.some.inj hw ▸ h
  | cons segment rest ih =>
    obtain ⟨u, hu, hw⟩ := Option.bind_eq_some_iff.mp hw
    exact ih (h.segment? hu) hw

end Value

end PropertyGraph
