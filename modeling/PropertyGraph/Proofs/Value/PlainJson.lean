import PropertyGraph.Proofs.Value.Paths
import PropertyGraph.Value.Json

/-!
# Values that JSON holds

JSON has no bytes, no instants and no numbers that are not finite; what is built without them is
plain (`Value.IsPlain`).  The plain values are those that come back from JSON as they were
(`Value.ofJson_toJson_eq_self_iff`): a number is written as the kind it has, so that a whole
floating-point number and the negative zero are not read as integers.
-/

namespace PropertyGraph.Value

/-- The value is built from nulls, booleans, integers, finite numbers and strings. -/
inductive IsPlain : Value → Prop where
  | null : IsPlain .null
  | bool (b : Bool) : IsPlain (.bool b)
  | int (n : Int64) : IsPlain (.int n)
  | float {x : Binary64} (h : x.isFinite = true) : IsPlain (.float x)
  | string (s : String) : IsPlain (.string s)
  | list {items : List Value} (h : ∀ v ∈ items, IsPlain v) : IsPlain (.list items)
  | map {entries : List (String × Value)} (h : ∀ e ∈ entries, IsPlain e.2) : IsPlain (.map entries)

/-! ### Items and members -/

theorem toJsonItems_eq_map (items : List Value) : toJsonItems items = items.map toJson := by
  induction items with
  | nil => rfl
  | cons v rest ih => rw [toJsonItems, ih, List.map_cons]

theorem toJsonMembers_eq_map (entries : List (String × Value)) :
    toJsonMembers entries = entries.map fun e => (e.1, e.2.toJson) := by
  induction entries with
  | nil => rfl
  | cons e rest ih => rw [toJsonMembers, ih, List.map_cons]

theorem ofJsonItems_eq_map (items : List Json) : ofJsonItems items = items.map ofJson := by
  induction items with
  | nil => rfl
  | cons j rest ih => rw [ofJsonItems, ih, List.map_cons]

theorem ofJsonMembers_eq_map (members : List (String × Json)) :
    ofJsonMembers members = members.map fun m => (m.1, ofJson m.2) := by
  induction members with
  | nil => rfl
  | cons m rest ih => rw [ofJsonMembers, ih, List.map_cons]

/-! ### What comes back -/

/-- A 64-bit integer is written as a number that is read as this integer. -/
theorem ofNumber_toInt (n : Int64) : ofNumber (.integer n.toInt) = .int n := by
  have hrange : -Int.pow 2 63 ≤ n.toInt ∧ n.toInt < Int.pow 2 63 :=
    ⟨Int64.le_toInt n, Int64.toInt_lt n⟩
  have hint : (JsonNumber.integer n.toInt).toInt64? = some n := by
    rw [JsonNumber.toInt64?, if_pos hrange, Int64.ofInt_toInt]
  rw [ofNumber, hint]

theorem ofJson_toJson_float_iff (x : Binary64) :
    ofJson (toJson (.float x)) = .float x ↔ x.isFinite = true := by
  unfold toJson
  split_ifs with hfinite
  · exact iff_of_true rfl hfinite
  · exact iff_of_false nofun hfinite

theorem ofJson_toJson_list_iff (items : List Value) :
    ofJson (toJson (.list items)) = .list items ↔ ∀ v ∈ items, ofJson v.toJson = v := by
  have hitems : ofJson (toJson (.list items)) = .list (items.map fun v => ofJson v.toJson) := by
    rw [toJson, ofJson, toJsonItems_eq_map, ofJsonItems_eq_map, List.map_map]
    rfl
  rw [hitems, list.injEq]
  nth_rewrite 2 [← List.map_id items]
  exact List.map_inj_left

/-- The members of a map are written in the order of the keys, so the map is put together again from
what they are read as. -/
theorem ofJson_toJson_map {entries : List (String × Value)} (h : Entries.Sorted entries) :
    ofJson (toJson (.map entries)) = .map (entries.map fun e => (e.1, ofJson e.2.toJson)) := by
  have hsorted : Entries.Sorted (entries.map fun e => (e.1, ofJson e.2.toJson)) :=
    List.pairwise_map.mpr h
  rw [toJson, ofJson, toJsonMembers_eq_map, ofJsonMembers_eq_map, List.map_map]
  exact congrArg map (Entries.ofList_of_sorted hsorted)

theorem ofJson_toJson_map_iff {entries : List (String × Value)} (h : Entries.Sorted entries) :
    ofJson (toJson (.map entries)) = .map entries ↔ ∀ e ∈ entries, ofJson e.2.toJson = e.2 := by
  rw [ofJson_toJson_map h, map.injEq]
  nth_rewrite 2 [← List.map_id entries]
  rw [List.map_inj_left]
  exact forall₂_congr fun e _ => Prod.ext_iff.trans (and_iff_right rfl)

/-- What is plain comes back from JSON as it was. -/
theorem IsPlain.ofJson_toJson {v : Value} (h : v.IsPlain) (hv : v.Canonical) :
    ofJson v.toJson = v := by
  induction h with
  | null => rfl
  | bool b => rfl
  | int n => exact ofNumber_toInt n
  | float hfinite => exact (ofJson_toJson_float_iff _).mpr hfinite
  | string s => rfl
  | list _ ih => exact (ofJson_toJson_list_iff _).mpr fun v hmem => ih v hmem (hv.of_mem hmem)
  | map _ ih => exact (ofJson_toJson_map_iff hv.1).mpr fun e hmem => ih e hmem (hv.2.of_mem hmem)

/-- What comes back from JSON as it was is plain. -/
theorem isPlain_of_ofJson_toJson : ∀ {v : Value}, v.Canonical → ofJson v.toJson = v → v.IsPlain
  | .null, _, _ => .null
  | .bool b, _, _ => .bool b
  | .int n, _, _ => .int n
  | .float x, _, h => .float ((ofJson_toJson_float_iff x).mp h)
  | .string s, _, _ => .string s
  | .bytes _, _, h => by cases h
  | .dateTime _, _, h => by cases h
  | .list items, hv, h => .list fun v hmem =>
    isPlain_of_ofJson_toJson (CanonicalItems.of_mem hv hmem)
      ((ofJson_toJson_list_iff items).mp h v hmem)
  | .map entries, hv, h => .map fun e hmem =>
    isPlain_of_ofJson_toJson (hv.2.of_mem hmem) ((ofJson_toJson_map_iff hv.1).mp h e hmem)
termination_by v => sizeOf v
decreasing_by
  · have := List.sizeOf_lt_of_mem hmem
    simp only [list.sizeOf_spec]
    omega
  · obtain ⟨key, v⟩ := e
    have := List.sizeOf_lt_of_mem hmem
    simp only [map.sizeOf_spec, Prod.mk.sizeOf_spec] at this ⊢
    omega

/-- **Plain values and JSON.**  Writing a value as JSON and reading it again gives the same value
exactly if the value is plain, however deep it is nested. -/
theorem ofJson_toJson_eq_self_iff {v : Value} (hv : v.Canonical) :
    ofJson v.toJson = v ↔ v.IsPlain :=
  ⟨isPlain_of_ofJson_toJson hv, fun h => h.ofJson_toJson hv⟩

/-- Limits of a sensor: both bounds of the integers, the negative zero and a whole number that is no
integer. -/
def sensorLimits : Value :=
  .map [("counts", .list [.int Int64.minValue, .int Int64.maxValue, .null]),
    ("range", .map [("from", .float .negativeZero), ("to", .float (.ofNat 1))])]

theorem ofJson_toJson_sensorLimits :
    sensorLimits.Canonical ∧ sensorLimits.IsPlain ∧ ofJson sensorLimits.toJson = sensorLimits := by
  have hcanonical : sensorLimits.Canonical := by
    refine ⟨List.pairwise_pair.mpr (by decide), ⟨trivial, trivial, trivial, trivial⟩, ⟨?_, ?_⟩,
      trivial⟩
    · exact List.pairwise_pair.mpr (by decide)
    · exact ⟨trivial, trivial, trivial⟩
  have hfrom : Binary64.negativeZero.isFinite = true := by decide
  have hto : (Binary64.ofNat 1).isFinite = true := by decide
  have hplain : sensorLimits.IsPlain := by
    have hcounts : IsPlain (.list [.int Int64.minValue, .int Int64.maxValue, .null]) := by
      refine .list ?_
      simpa using ⟨IsPlain.int Int64.minValue, IsPlain.int Int64.maxValue, IsPlain.null⟩
    have hrange : IsPlain (.map [("from", .float .negativeZero), ("to", .float (.ofNat 1))]) := by
      refine .map ?_
      simpa using ⟨IsPlain.float hfrom, IsPlain.float hto⟩
    refine .map ?_
    simpa using ⟨hcounts, hrange⟩
  exact ⟨hcanonical, hplain, (ofJson_toJson_eq_self_iff hcanonical).mpr hplain⟩

end PropertyGraph.Value
