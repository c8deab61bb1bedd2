import PropertyGraph.Projection.Accessor
import PropertyGraph.Proofs.Value.Paths

/-!
# What accessors read

An accessor follows the segments of its path that have something in them
(`Accessor.get?_compile`).  A lookup of the path follows all segments, so the two agree in every row
exactly if no segment is empty; `accessor_and_lookup` says so, and what a field of a row is in terms
of accessors.
-/

namespace PropertyGraph

namespace Accessor

theorem foldlM_step? (keys : List String) (row : Value) :
    (keys.map fun key => (⟨key, Integer.natural? key.toList⟩ : AccessorSegment)).foldlM step? row
      = row.follow? keys := by
  induction keys generalizing row with
  | nil => rfl
  | cons key rest ih =>
    have hstep : step? row ⟨key, Integer.natural? key.toList⟩ = row.segment? key := by
      cases row <;> rfl
    rw [List.map_cons, List.foldlM_cons, hstep, Value.follow?]
    exact Option.bind_congr fun v _ => ih v

theorem get?_compile (path : String) (row : Value) :
    (compile path).get? row = row.follow? (filledSegments path) := foldlM_step? _ row

theorem get?_compile_empty (row : Value) : (compile "").get? row = some row := get?_compile "" row

theorem get?_compile_append (path rest : String) (row : Value) :
    (compile (path ++ "." ++ rest)).get? row
      = ((compile path).get? row).bind (compile rest).get? := by
  rw [get?_compile, get?_compile, filledSegments_append, Value.follow?_append]
  exact Option.bind_congr fun v _ => (get?_compile rest v).symm

theorem get?_compile_eq_path? {path : String} (h : "" ∉ pathSegments path) (row : Value) :
    (compile path).get? row = row.path? path := by
  rw [get?_compile, filledSegments_of_notMem h]
  rfl

/-- A plain key leads into a map as it stands. -/
theorem get?_compile_plain {key : String} (h : IsPlainKey key) (entries : List (String × Value)) :
    (compile key).get? (.map entries) = Entries.find? key entries := by
  rw [get?_compile, h.filledSegments, Value.follow?_singleton]
  rfl

end Accessor

/-! ### Rows that tell an accessor from a lookup -/

/-- Maps of one entry in each other, under the given keys from the outside to the inside. -/
def Value.nested : List String → Value
  | [] => .null
  | key :: rest => .map [(key, nested rest)]

namespace Value

theorem segment?_nested (key : String) (rest : List String) :
    (nested (key :: rest)).segment? key = some (nested rest) := if_pos rfl

theorem follow?_nested (keys : List String) : (nested keys).follow? keys = some .null := by
  induction keys with
  | nil => rfl
  | cons key rest ih =>
    rw [follow?, segment?_nested]
    exact ih

/-- There is nothing under the empty key, so the empty segments of a path lead nowhere. -/
theorem follow?_nested_filter {segments : List String} (h : "" ∈ segments) :
    (nested (segments.filter fun segment => !segment.isEmpty)).follow? segments = none := by
  induction segments with
  | nil => cases h
  | cons segment rest ih =>
    by_cases hempty : segment = ""
    · subst hempty
      rw [List.filter_cons_of_neg (by decide), follow?]
      cases hfilled : rest.filter fun segment => !segment.isEmpty with
      | nil => rfl
      | cons key others =>
        -- the map that comes next has one key, which is not empty
        have hkey : key ∈ rest.filter fun segment => !segment.isEmpty :=
          hfilled ▸ List.mem_cons_self
        have hne : key ≠ "" := by simpa using (List.mem_filter.mp hkey).2
        rw [nested, segment?, Entries.find?, if_neg hne]
        rfl
    · have hrest : "" ∈ rest := (List.mem_cons.mp h).resolve_left (Ne.symm hempty)
      rw [List.filter_cons_of_pos (by simpa using hempty), follow?, segment?_nested]
      exact ih hrest

end Value

/-- **Accessors and lookups.**  An accessor reads what lies at the end of the segments of its path
that are not empty.  This is what the lookup of the path reads, in every row, exactly if no segment
is empty.  Then the field of a row under the path is what the accessor reads, and if it reads
nothing, what the accessor of the path below `properties` reads. -/
theorem accessor_and_lookup (path : String) :
    (∀ row, (Accessor.compile path).get? row = row.follow? (filledSegments path)) ∧
      ((∀ row, (Accessor.compile path).get? row = row.path? path) ↔ "" ∉ pathSegments path) ∧
      ("" ∉ pathSegments path → ∀ row : Value, row.lookup? path
        = ((Accessor.compile path).get? row).or
          ((Accessor.compile ("properties" ++ "." ++ path)).get? row)) := by
  refine ⟨Accessor.get?_compile path, ⟨fun hagree hempty => ?_, Accessor.get?_compile_eq_path?⟩,
    fun hfilled row => ?_⟩
  · have hnested := hagree (.nested (filledSegments path))
    rw [Accessor.get?_compile, Value.follow?_nested, Value.path?, filledSegments,
      Value.follow?_nested_filter hempty] at hnested
    cases hnested
  · have hbelow : "" ∉ pathSegments ("properties" ++ "." ++ path) := by
      rw [pathSegments_append, pathSegments_of_notMem (by decide)]
      simpa using hfilled
    rw [Value.lookup?_eq, Accessor.get?_compile_eq_path? hfilled,
      Accessor.get?_compile_eq_path? hbelow]

/-- The row of a node that has an age and two tags. -/
def taggedRow : Value :=
  .map [("id", .string "a"), ("labels", .list []),
    ("properties", .map [("age", .int 36), ("tags", .list [.string "x", .string "y"])])]

theorem accessor_and_lookup_tags :
    "" ∉ pathSegments "tags.1" ∧
      (Accessor.compile "tags.1").get? taggedRow = taggedRow.path? "tags.1" ∧
      taggedRow.lookup? "tags.1"
        = ((Accessor.compile "tags.1").get? taggedRow).or
          ((Accessor.compile ("properties" ++ "." ++ "tags.1")).get? taggedRow) ∧
      taggedRow.lookup? "tags.1" = some (.string "y") := by
  have hfilled : "" ∉ pathSegments "tags.1" := by decide
  obtain ⟨-, hagree, hfield⟩ := accessor_and_lookup "tags.1"
  exact ⟨hfilled, hagree.mpr hfilled taggedRow, hfield hfilled taggedRow, rfl⟩

/-- Behind a dot at the end an accessor stops where a lookup asks for the empty key, and an accessor
does not look below `properties`. -/
theorem accessor_and_lookup_differ :
    (Accessor.compile "id.").get? taggedRow = some (.string "a") ∧ taggedRow.path? "id." = none ∧
      (Accessor.compile "age").get? taggedRow = none ∧
      taggedRow.lookup? "age" = some (.int 36) :=
  ⟨rfl, rfl, rfl, rfl⟩

end PropertyGraph
