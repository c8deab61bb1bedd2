import PropertyGraph.Projection.Projector
import PropertyGraph.Proofs.Value.Paths

/-!
# Flattened rows

Flattening opens the maps of a row down to a depth and puts what it then finds (`Value.leaves`)
under the paths of the keys that lead to it (`Value.flattenInto_eq_foldl`).  If all keys on the way
are plain, the segments of such a path are the keys (`Value.pathSegments_pathAlong`), so no two
leaves meet under one path.  `Projector.projectFlattened_spec` says which entries a flattened row
has, and that the fields of a projection are the keys of all its rows.
-/

namespace PropertyGraph

namespace Value

/-! ### Leaves -/

/-- The value that keys lead to, one below the other, through maps only. -/
def throughMaps? (v : Value) : List String → Option Value
  | [] => some v
  | key :: rest =>
    match v with
    | .map entries => (Entries.find? key entries).bind fun w => w.throughMaps? rest
    | _ => none

/-- What is found when maps are opened down to a depth, with the keys that lead to it. -/
def leaves : Nat → Value → List (List String × Value)
  | 0, v => [([], v)]
  | depth + 1, v =>
    match v with
    | .map entries =>
      entries.flatMap fun e => (leaves depth e.2).map fun leaf => (e.1 :: leaf.1, leaf.2)
    | v => [([], v)]

/-- How many keys lead to a leaf: to a map as many as the depth allows, to anything else no more. -/
def EndsAt (depth : Nat) (keys : List String) (v : Value) : Prop :=
  if v.isMap then keys.length = depth else keys.length ≤ depth

theorem endsAt_zero {keys : List String} {v : Value} : EndsAt 0 keys v ↔ keys = [] := by
  unfold EndsAt
  split_ifs <;> simp

theorem endsAt_cons {depth : Nat} {key : String} {keys : List String} {v : Value} :
    EndsAt (depth + 1) (key :: keys) v ↔ EndsAt depth keys v := by
  unfold EndsAt
  split_ifs <;> simp

theorem mem_leaves_map {depth : Nat} {entries : List (String × Value)}
    {leaf : List String × Value} :
    leaf ∈ leaves (depth + 1) (.map entries) ↔
      ∃ e ∈ entries, ∃ rest ∈ leaves depth e.2, (e.1 :: rest.1, rest.2) = leaf := by
  rw [leaves, List.mem_flatMap]
  simp only [List.mem_map]

theorem leaves_of_not_isMap {v : Value} (h : v.isMap = false) (depth : Nat) :
    leaves depth v = [([], v)] := by
  cases depth with
  | zero => rfl
  | succ depth =>
    cases v with
    | map entries => cases h
    | _ => rfl

theorem throughMaps?_of_not_isMap {v : Value} (h : v.isMap = false) (key : String)
    (rest : List String) : v.throughMaps? (key :: rest) = none := by
  cases v with
  | map entries => cases h
  | _ => rfl

/-- The leaves are what keys lead to through maps until the depth is reached or the maps end. -/
theorem mem_leaves_iff {depth : Nat} {v w : Value} {keys : List String} (h : v.Canonical) :
    (keys, w) ∈ leaves depth v ↔ v.throughMaps? keys = some w ∧ EndsAt depth keys w := by
  induction depth generalizing v keys with
  | zero =>
    rw [leaves, List.mem_singleton, endsAt_zero, Prod.mk.injEq]
    constructor
    · rintro ⟨rfl, rfl⟩
      exact ⟨rfl, rfl⟩
    · rintro ⟨hw, rfl⟩
      exact ⟨rfl, (Option.some.inj hw).symm⟩
  | succ depth ih =>
    cases hmap : v.isMap with
    | true =>
      obtain ⟨entries, rfl⟩ : ∃ entries, v = .map entries := by
        cases v with
        | map entries => exact ⟨entries, rfl⟩
        | _ => cases hmap
      rw [mem_leaves_map]
      constructor
      · rintro ⟨e, he, ⟨rest, u⟩, hleaf, heq⟩
        obtain ⟨rfl, rfl⟩ := Prod.mk.inj heq
        obtain ⟨hu, hends⟩ := (ih (h.2.of_mem he)).mp hleaf
        refine ⟨?_, endsAt_cons.mpr hends⟩
        rw [throughMaps?, (Entries.find?_eq_some_iff h.1).mpr he]
        exact hu
      · rintro ⟨hw, hends⟩
        cases keys with
        | nil =>
          -- no key leads to the map itself, which is not a leaf
          obtain rfl := Option.some.inj hw
          cases hends
        | cons key rest =>
          obtain ⟨u, hu, hrest⟩ := Option.bind_eq_some_iff.mp hw
          have he : (key, u) ∈ entries := Entries.mem_of_find?_eq_some hu
          have hleaf := (ih (h.2.of_mem he)).mpr ⟨hrest, endsAt_cons.mp hends⟩
          exact ⟨(key, u), he, (rest, w), hleaf, rfl⟩
    | false =>
      rw [leaves_of_not_isMap hmap, List.mem_singleton, Prod.mk.injEq]
      constructor
      · rintro ⟨rfl, rfl⟩
        refine ⟨rfl, ?_⟩
        rw [EndsAt, hmap]
        exact Nat.zero_le _
      · rintro ⟨hw, -⟩
        cases keys with
        | nil => exact ⟨rfl, (Option.some.inj hw).symm⟩
        | cons key rest =>
          rw [throughMaps?_of_not_isMap hmap] at hw
          cases hw

/-! ### Paths along keys -/

/-- The path that goes on from a path along keys. -/
def pathAlong (path : String) (keys : List String) : String := keys.foldl pathTo path

/-- All keys that are met on the way through maps are plain. -/
def HasPlainKeys (v : Value) : Prop :=
  ∀ keys entries, v.throughMaps? keys = some (.map entries) → ∀ e ∈ entries, IsPlainKey e.1

theorem hasPlainKeys_of_not_isMap {v : Value} (h : v.isMap = false) : v.HasPlainKeys := by
  intro keys entries hkeys
  cases keys with
  | nil =>
    obtain rfl := Option.some.inj hkeys
    cases h
  | cons key rest =>
    rw [throughMaps?_of_not_isMap h] at hkeys
    cases hkeys

theorem hasPlainKeys_map {entries : List (String × Value)}
    (h : ∀ e ∈ entries, IsPlainKey e.1 ∧ HasPlainKeys e.2) : HasPlainKeys (.map entries) := by
  intro keys entries' hkeys
  cases keys with
  | nil =>
    obtain rfl := Value.map.inj (Option.some.inj hkeys)
    exact fun e he => (h e he).1
  | cons key rest =>
    obtain ⟨w, hw, hrest⟩ := Option.bind_eq_some_iff.mp hkeys
    exact (h _ (Entries.mem_of_find?_eq_some hw)).2 rest entries' hrest

theorem HasPlainKeys.of_mem {entries : List (String × Value)} (h : HasPlainKeys (.map entries))
    (hsorted : Entries.Sorted entries) {e : String × Value} (he : e ∈ entries) :
    HasPlainKeys e.2 := by
  intro keys entries' hkeys
  refine h (e.1 :: keys) entries' ?_
  rw [throughMaps?, (Entries.find?_eq_some_iff hsorted).mpr he]
  exact hkeys

theorem HasPlainKeys.of_mem_leaves {depth : Nat} {v : Value} (hv : v.Canonical)
    (h : v.HasPlainKeys) {leaf : List String × Value} (hleaf : leaf ∈ leaves depth v) :
    ∀ key ∈ leaf.1, IsPlainKey key := by
  induction depth generalizing v leaf with
  | zero =>
    obtain rfl := List.mem_singleton.mp hleaf
    intro key hkey
    cases hkey
  | succ depth ih =>
    cases v with
    | map entries =>
      obtain ⟨e, he, rest, hrest, rfl⟩ := mem_leaves_map.mp hleaf
      have hfirst : IsPlainKey e.1 := h [] entries rfl e he
      exact List.forall_mem_cons.mpr ⟨hfirst, ih (hv.2.of_mem he) (h.of_mem hv.1 he) hrest⟩
    | _ =>
      obtain rfl := List.mem_singleton.mp hleaf
      intro key hkey
      cases hkey

theorem pathSegments_pathAlong_of_ne_empty {path : String} {keys : List String} (hpath : path ≠ "")
    (h : ∀ key ∈ keys, IsPlainKey key) :
    pathSegments (pathAlong path keys) = pathSegments path ++ keys := by
  induction keys generalizing path with
  | nil => rw [List.append_nil]; rfl
  | cons key rest ih =>
    obtain ⟨hkey, hrest⟩ := List.forall_mem_cons.mp h
    have hnext := pathTo_of_ne_empty hpath key
    have hne : pathTo path key ≠ "" := by
      rw [hnext]
      simp
    show pathSegments (pathAlong (pathTo path key) rest) = _
    rw [ih hne hrest, hnext, pathSegments_append, hkey.pathSegments, List.append_assoc,
      List.singleton_append]

/-- The segments of the path along plain keys are the keys. -/
theorem pathSegments_pathAlong {keys : List String} (hne : keys ≠ [])
    (h : ∀ key ∈ keys, IsPlainKey key) : pathSegments (pathAlong "" keys) = keys := by
  cases keys with
  | nil => exact absurd rfl hne
  | cons key rest =>
    obtain ⟨hkey, hrest⟩ := List.forall_mem_cons.mp h
    show pathSegments (pathAlong key rest) = _
    rw [pathSegments_pathAlong_of_ne_empty hkey.ne_empty hrest, hkey.pathSegments,
      List.singleton_append]

/-! ### Flattening -/

theorem flattenInto_eq_foldl (path : String) (depth : Nat) (before : PropertyMap) (v : Value) :
    flattenInto path depth before v = (leaves depth v).foldl
      (fun out leaf => out.insert (pathAlong path leaf.1) leaf.2) before := by
  induction depth generalizing path before v with
  | zero =>
    cases v with
    | map entries => rw [flattenInto]; rfl
    | _ => rw [flattenInto]; rfl; nofun
  | succ depth ih =>
    have hentries (entries : List (String × Value)) (before : PropertyMap) :
        flattenEntries path depth before entries
          = (leaves (depth + 1) (.map entries)).foldl
            (fun out leaf => out.insert (pathAlong path leaf.1) leaf.2) before := by
      induction entries generalizing before with
      | nil => rw [flattenEntries]; rfl
      | cons e rest ih' =>
        obtain ⟨key, w⟩ := e
        rw [flattenEntries, ih', ih, leaves, leaves, List.flatMap_cons, List.foldl_append,
          List.foldl_map]
        rfl
    cases v with
    | map entries =>
      rw [flattenInto]
      exact hentries entries before
    | _ => rw [flattenInto]; rfl; nofun

section Flattened

variable {depth : Nat} {entries : List (String × Value)} (hrow : Canonical (.map entries))
  (hplain : HasPlainKeys (.map entries))
include hrow hplain

theorem pathSegments_leaf {leaf : List String × Value}
    (hleaf : leaf ∈ leaves (max depth 1) (.map entries)) :
    pathSegments (pathAlong "" leaf.1) = leaf.1 := by
  refine pathSegments_pathAlong ?_ (hplain.of_mem_leaves hrow hleaf)
  obtain ⟨d, hd⟩ : ∃ d, max depth 1 = d + 1 := ⟨max depth 1 - 1, by omega⟩
  rw [hd] at hleaf
  obtain ⟨e, -, rest, -, rfl⟩ := mem_leaves_map.mp hleaf
  exact List.cons_ne_nil _ _

theorem find?_flattened_eq (path : String) :
    (flattened depth (.map entries)).find? path
      = if path ∈ (leaves (max depth 1) (.map entries)).map fun leaf => pathAlong "" leaf.1 then
          throughMaps? (.map entries) (pathSegments path)
        else none := by
  -- what is put under a path depends on the path alone
  have hinsert : ∀ leaf ∈ leaves (max depth 1) (.map entries), ∀ (out : PropertyMap) path,
      (out.insert (pathAlong "" leaf.1) leaf.2).find? path
        = if path = pathAlong "" leaf.1 then throughMaps? (.map entries) (pathSegments path)
          else out.find? path := by
    intro leaf hleaf out path
    rw [SortedMap.find?_insert]
    split_ifs with hpath
    · rw [hpath, pathSegments_leaf hrow hplain hleaf, ((mem_leaves_iff hrow).mp hleaf).1]
    · rfl
  rw [flattened, flattenInto_eq_foldl]
  exact SortedMap.find?_foldl (fun leaf : List String × Value => pathAlong "" leaf.1)
    (fun path => throughMaps? (.map entries) (pathSegments path)) hinsert .empty path

/-- What a flattened row has under a path: what its segments lead to, if that is a leaf. -/
theorem find?_flattened {path : String} {v : Value} :
    (flattened depth (.map entries)).find? path = some v ↔
      throughMaps? (.map entries) (pathSegments path) = some v ∧
        EndsAt (max depth 1) (pathSegments path) v := by
  rw [find?_flattened_eq hrow hplain]
  constructor
  · intro h
    split_ifs at h with hmem
    obtain ⟨leaf, hleaf, rfl⟩ := List.mem_map.mp hmem
    obtain ⟨hvalue, hends⟩ := (mem_leaves_iff hrow).mp hleaf
    rw [pathSegments_leaf hrow hplain hleaf] at h ⊢
    obtain rfl := Option.some.inj (hvalue.symm.trans h)
    exact ⟨hvalue, hends⟩
  · rintro ⟨hvalue, hends⟩
    have hleaf := (mem_leaves_iff hrow).mpr ⟨hvalue, hends⟩
    have hsegments := pathSegments_leaf hrow hplain hleaf
    have hpath : pathAlong "" (pathSegments path) = path := pathSegments_injective hsegments
    rw [if_pos (List.mem_map.mpr ⟨_, hleaf, hpath⟩), hvalue]

end Flattened

end Value

/-- **Flattening keeps the leaves and nothing else.**  Where the keys of a row are plain, the
flattened row has a value under a path exactly if the segments of the path lead to the value through
maps and end at it: at a map when the depth is reached, at anything else before or then.  The fields
are the keys of all flattened rows in order, each once. -/
theorem Projector.projectFlattened_spec (p : Projector) (rows : List Value) (depth : Option Nat) :
    ∃ outs : List PropertyMap,
      (p.projectFlattened rows depth).data = outs.map Value.ofProperties ∧
      List.Forall₂ (fun row out => row.isMap → row.Canonical → row.HasPlainKeys → ∀ path v,
        out.find? path = some v ↔
          row.throughMaps? (pathSegments path) = some v ∧
            Value.EndsAt (max (depth.getD p.config.flattenDepth) 1) (pathSegments path) v)
        rows outs ∧
      (p.projectFlattened rows depth).fields.Pairwise (fun a b => compare a b = .lt) ∧
      ∀ path, path ∈ (p.projectFlattened rows depth).fields ↔ ∃ out ∈ outs, path ∈ out.keys := by
  refine ⟨rows.map (Value.flattened (depth.getD p.config.flattenDepth)), rfl, ?_, ?_,
    fun path => ?_⟩
  · rw [List.forall₂_map_right_iff, List.forall₂_same]
    intro row _ hmap hrow hplain path v
    cases row with
    | map entries => exact Value.find?_flattened hrow hplain
    | _ => cases hmap
  · exact List.pairwise_map.mpr (SortedMap.sorted _)
  · show path ∈ (SortedMap.ofList (List.map (fun key => (key, ())) _)).keys ↔ _
    rw [SortedMap.mem_keys_iff, SortedMap.find?_ofList_map _ (fun _ => ())]
    split_ifs with hpath
    · exact iff_of_true rfl (List.mem_flatMap.mp hpath)
    · exact iff_of_false (by decide) fun h => hpath (List.mem_flatMap.mpr h)

/-! ### A place -/

/-- The row of a place with two levels of maps. -/
def placeRow : Value :=
  .map [("at", .map [("geo", .map [("lat", .int 59)]), ("tags", .list [.string "port"])]),
    ("name", .string "Oslo")]

theorem canonical_placeRow : placeRow.Canonical := by
  refine ⟨List.pairwise_pair.mpr (by decide), ⟨?_, ?_⟩, trivial, trivial⟩
  · exact List.pairwise_pair.mpr (by decide)
  · exact ⟨⟨List.pairwise_singleton _ _, trivial, trivial⟩, ⟨trivial, trivial⟩, trivial⟩

theorem hasPlainKeys_placeRow : placeRow.HasPlainKeys := by
  have hleaf {v : Value} (h : v.isMap = false) := Value.hasPlainKeys_of_not_isMap h
  have hgeo : (Value.map [("lat", .int 59)]).HasPlainKeys :=
    Value.hasPlainKeys_map (List.forall_mem_singleton.mpr ⟨⟨by decide, by decide⟩, hleaf rfl⟩)
  have hat : (Value.map [("geo", .map [("lat", .int 59)]),
      ("tags", .list [.string "port"])]).HasPlainKeys := by
    refine Value.hasPlainKeys_map (List.forall_mem_cons.mpr ⟨⟨⟨by decide, by decide⟩, hgeo⟩, ?_⟩)
    exact List.forall_mem_singleton.mpr ⟨⟨by decide, by decide⟩, hleaf rfl⟩
  refine Value.hasPlainKeys_map (List.forall_mem_cons.mpr ⟨⟨⟨by decide, by decide⟩, hat⟩, ?_⟩)
  exact List.forall_mem_singleton.mpr ⟨⟨by decide, by decide⟩, hleaf rfl⟩

theorem Projector.projectFlattened_spec_place :
    placeRow.isMap ∧ placeRow.Canonical ∧ placeRow.HasPlainKeys ∧
      ∃ out : PropertyMap,
        (({} : Projector).projectFlattened [placeRow] (some 2)).data = [.ofProperties out] ∧
        out.find? "at.geo" = some (.map [("lat", .int 59)]) ∧
        out.find? "name" = some (.string "Oslo") ∧ ∀ v, out.find? "at" ≠ some v := by
  refine ⟨rfl, canonical_placeRow, hasPlainKeys_placeRow, ?_⟩
  obtain ⟨outs, hdata, hrows, -, -⟩ := projectFlattened_spec {} [placeRow] (some 2)
  cases hrows with
  | @cons _ out _ _ hrow hrest =>
    cases hrest
    have hfind := hrow rfl canonical_placeRow hasPlainKeys_placeRow
    refine ⟨out, hdata, ?_, ?_, fun v hv => ?_⟩
    · exact (hfind _ _).mpr ⟨rfl, show 2 = 2 from rfl⟩
    · exact (hfind _ _).mpr ⟨rfl, show 1 ≤ 2 by decide⟩
    · -- the map under the key is opened, as the depth is not reached
      obtain ⟨hvalue, hends⟩ := (hfind _ _).mp hv
      obtain rfl := Option.some.inj hvalue
      exact absurd (show 1 = 2 from hends) (by decide)

end PropertyGraph
