import PropertyGraph.Proofs.Projection.Projector

/-!
# Wildcards

A wildcard stands for the paths of the keys that its parent has in the first row.  The accessor of
such a path follows the parent and then the key (`Accessor.get?_compile_pathTo`), but the key as a
path of its own: a key with a dot in it is taken apart, and the empty key is left out.
`Projector.wildcard_first_row` says what comes out of the first row, which for a plain key is the
value under it.
-/

namespace PropertyGraph

/-! ### Keys below a parent -/

theorem Accessor.get?_compile_pathTo (parent key : String) (row : Value) :
    (compile (Value.pathTo parent key)).get? row
      = ((compile parent).get? row).bind (compile key).get? := by
  by_cases hparent : parent = ""
  · subst hparent
    rw [get?_compile_empty, Value.pathTo_empty]
    rfl
  · rw [Value.pathTo_of_ne_empty hparent, get?_compile_append]

namespace Projector

theorem wildcard?_append (parent : String) : wildcard? (parent ++ ".*") = some parent := by
  have hne : parent ++ ".*" ≠ "*" := by
    intro h
    have hlength := congrArg (fun path => path.toList.length) h
    simp only [String.toList_append, List.length_append] at hlength
    have htwo : ".*".toList.length = 2 := rfl
    have hone : "*".toList.length = 1 := rfl
    omega
  have hreverse : (parent ++ ".*").toList.reverse = '*' :: '.' :: parent.toList.reverse := by simp
  rw [wildcard?, if_neg hne, hreverse]
  simp

/-! ### The first row -/

section FirstRow

variable {parent field : String} {row : Value} {entries : List (String × Value)}

theorem expansion_wildcard (hfield : wildcard? field = some parent) (others : List Value)
    (htarget : (Accessor.compile parent).get? row = some (.map entries)) :
    expansion (row :: others) field = entries.map fun e => Value.pathTo parent e.1 := by
  unfold expansion
  rw [hfield]
  show (((((Accessor.compile parent).get? row).bind Value.map?).getD []).map _) = _
  rw [htarget]
  rfl

/-- A wildcard makes one field for each key that its parent has in the first row. -/
theorem projectWithWildcards_wildcard {p : Projector} (hp : p.Faithful)
    (hfield : wildcard? field = some parent) (others : List Value)
    (htarget : (Accessor.compile parent).get? row = some (.map entries))
    (hkeys : (entries.map Prod.fst).Nodup) :
    (entries.map fun e => Value.pathTo parent e.1).Nodup ∧
      ∃ p' : Projector, projectWithWildcards (row :: others) { fields := some [field] } p
        = (.ok ⟨(row :: others).map fun row =>
              .ofProperties (row.readings (entries.map fun e => Value.pathTo parent e.1)),
            entries.map fun e => Value.pathTo parent e.1⟩, p') := by
  have hnodup : (entries.map fun e => Value.pathTo parent e.1).Nodup := by
    have hmap := hkeys.map (Value.pathTo_injective parent)
    rwa [List.map_map] at hmap
  obtain ⟨p', hrun, -⟩ :=
    answers_projectWithWildcards (row :: others) { fields := some [field] } p hp
  dsimp only at hrun
  rw [List.flatMap_singleton, expansion_wildcard hfield others htarget,
    ProjectionSpec.projection_plain _ hnodup] at hrun
  exact ⟨hnodup, p', hrun⟩

/-- The value of a field is what the key, as a path, leads to in the map. -/
theorem find?_readings_pathTo (htarget : (Accessor.compile parent).get? row = some (.map entries))
    {e : String × Value} (he : e ∈ entries) :
    (row.readings (entries.map fun e => Value.pathTo parent e.1)).find? (Value.pathTo parent e.1)
      = some (((Accessor.compile e.1).get? (.map entries)).getD .null) := by
  rw [Value.find?_readings, if_pos (List.mem_map.mpr ⟨e, he, rfl⟩), Accessor.get?_compile_pathTo,
    htarget, Option.bind_some]

/-- **The first row under a wildcard.**  Where the path before the wildcard leads to a map in the
first row, the fields are the paths of its keys, and the first row has just these fields.  The value
of a field is what the key, as a path, leads to in the map, or null if it leads nowhere.  For a
plain key this is the value under it. -/
theorem wildcard_first_row {p : Projector} (hp : p.Reachable)
    (hfield : field = parent ++ ".*" ∨ field = "*" ∧ parent = "") (hrow : row.Canonical)
    (others : List Value) (htarget : (Accessor.compile parent).get? row = some (.map entries)) :
    ∃ (out : PropertyMap) (rest : List Value) (p' : Projector),
      projectWithWildcards (row :: others) { fields := some [field] } p
        = (.ok ⟨.ofProperties out :: rest, entries.map fun e => Value.pathTo parent e.1⟩, p') ∧
      out.keys.Perm (entries.map fun e => Value.pathTo parent e.1) ∧
      ∀ e ∈ entries,
        out.find? (Value.pathTo parent e.1)
            = some (((Accessor.compile e.1).get? (.map entries)).getD .null) ∧
          (IsPlainKey e.1 → out.find? (Value.pathTo parent e.1) = some e.2) := by
  have hwildcard : wildcard? field = some parent := by
    rcases hfield with rfl | ⟨rfl, rfl⟩
    · exact wildcard?_append parent
    · rfl
  have hkeys : (entries.map Prod.fst).Nodup := by
    have hmap := htarget
    rw [Accessor.get?_compile] at hmap
    exact Entries.nodup_keys_of_sorted (hrow.follow? hmap).1
  obtain ⟨hnodup, p', hrun⟩ :=
    projectWithWildcards_wildcard hp.faithful hwildcard others htarget hkeys
  refine ⟨_, _, p', hrun, row.keys_readings hnodup, fun e he => ?_⟩
  have hvalue := find?_readings_pathTo htarget he
  refine ⟨hvalue, fun hplain => hvalue.trans ?_⟩
  rw [Accessor.get?_compile_plain hplain, Entries.find?_eq_some_of_nodup hkeys he]
  rfl

end FirstRow

/-! ### A release -/

/-- Properties of a release, of which one is named by a web address. -/
def releaseEntries : List (String × Value) :=
  [("example.org/status", .string "stable"), ("version", .int 7)]

/-- The row of a release. -/
def releaseRow : Value := .map [("id", .string "r"), ("properties", .map releaseEntries)]

theorem canonical_releaseRow : releaseRow.Canonical := by
  refine ⟨?_, trivial, ⟨?_, trivial, trivial, trivial⟩, trivial⟩
  · exact List.pairwise_pair.mpr (by decide)
  · exact List.pairwise_pair.mpr (by decide)

theorem releaseRow_properties :
    (Accessor.compile "properties").get? releaseRow = some (.map releaseEntries) := rfl

theorem wildcard_first_row_release :
    ∃ (out : PropertyMap) (rest : List Value) (p' : Projector),
      projectWithWildcards [releaseRow] { fields := some ["properties.*"] } {}
        = (.ok ⟨.ofProperties out :: rest,
          ["properties.example.org/status", "properties.version"]⟩, p') ∧
      out.keys.Perm ["properties.example.org/status", "properties.version"] ∧
      out.find? "properties.version" = some (.int 7) := by
  have hfield : "properties.*" = "properties" ++ ".*" := by decide
  have hnames : (releaseEntries.map fun e => Value.pathTo "properties" e.1)
      = ["properties.example.org/status", "properties.version"] := by decide
  have hname : Value.pathTo "properties" "version" = "properties.version" := by decide
  obtain ⟨out, rest, p', hrun, hkeys, hvalues⟩ :=
    wildcard_first_row (.new {}) (.inl hfield) canonical_releaseRow [] releaseRow_properties
  have hmem : ("version", .int 7) ∈ releaseEntries := by simp [releaseEntries]
  have hversion := (hvalues _ hmem).2 ⟨by decide, by decide⟩
  rw [hnames] at hrun hkeys
  rw [hname] at hversion
  exact ⟨out, rest, p', hrun, hkeys, hversion⟩

/-- A key with a dot in it has a field, but not its value. -/
theorem wildcard_dotted_key :
    releaseRow.path? "properties" = some (.map releaseEntries) ∧
      Entries.find? "example.org/status" releaseEntries = some (.string "stable") ∧
      ∃ (out : PropertyMap) (p' : Projector),
        projectWithWildcards [releaseRow] { fields := some ["properties.*"] } {}
          = (.ok ⟨[.ofProperties out],
            ["properties.example.org/status", "properties.version"]⟩, p') ∧
        out.find? "properties.example.org/status" = some .null := by
  have hfield : wildcard? "properties.*" = some "properties" := by decide
  have hnames : (releaseEntries.map fun e => Value.pathTo "properties" e.1)
      = ["properties.example.org/status", "properties.version"] := by decide
  have hname : Value.pathTo "properties" "example.org/status"
      = "properties.example.org/status" := by decide
  obtain ⟨-, p', hrun⟩ := projectWithWildcards_wildcard (faithful_of_empty (p := {}) rfl) hfield []
    releaseRow_properties (by decide)
  have hmem : ("example.org/status", .string "stable") ∈ releaseEntries := by simp [releaseEntries]
  have hvalue := find?_readings_pathTo releaseRow_properties hmem
  rw [hnames] at hrun
  rw [hnames, hname] at hvalue
  exact ⟨rfl, rfl, _, p', hrun, hvalue⟩

end Projector

end PropertyGraph
