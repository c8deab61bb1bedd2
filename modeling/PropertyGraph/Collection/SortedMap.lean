/-!
# Maps as sorted lists of entries

`Entries.insert` keeps a list of entries in ascending order of keys and `Entries.find?` looks a key
up.  Both make sense on any list of entries, so a type that nests such a list in itself can use
them; `SortedMap` is the list together with its order.

Main statements: `find?_insert_self`, `find?_insert_of_ne`, `find?_erase_self` and
`find?_erase_of_ne` say what a lookup finds after a change.
-/

namespace PropertyGraph

variable {κ α : Type}

namespace Entries

/-! ### Lists of entries -/

/-- The value of the first entry under a key. -/
def find? [DecidableEq κ] (k : κ) : List (κ × α) → Option α
  | [] => none
  | (k', v) :: rest => if k' = k then some v else find? k rest

/-- Puts an entry in its place in the order of keys, replacing one with the same key. -/
def insert [Ord κ] (k : κ) (v : α) : List (κ × α) → List (κ × α)
  | [] => [(k, v)]
  | (k', v') :: rest =>
    match compare k k' with
    | .lt => (k, v) :: (k', v') :: rest
    | .eq => (k, v) :: rest
    | .gt => (k', v') :: insert k v rest

/-- The entries with the keys of a list, the last one of a repeated key. -/
def ofList [Ord κ] (entries : List (κ × α)) : List (κ × α) :=
  entries.foldl (fun acc e => insert e.1 e.2 acc) []

/-- The keys grow strictly along the list. -/
def Sorted [Ord κ] (entries : List (κ × α)) : Prop :=
  entries.Pairwise fun a b => compare a.1 b.1 = .lt

theorem mem_insert [Ord κ] {k : κ} {v : α} {e : κ × α} {entries : List (κ × α)}
    (h : e ∈ insert k v entries) : e = (k, v) ∨ e ∈ entries := by
  induction entries with
  | nil => simpa [insert] using h
  | cons first rest ih =>
    rw [insert] at h
    split at h <;> simp only [List.mem_cons] at h ⊢ <;> grind

theorem sorted_insert [Ord κ] [Std.TransOrd κ] (k : κ) (v : α) {entries : List (κ × α)}
    (h : Sorted entries) : Sorted (insert k v entries) := by
  induction entries with
  | nil => simp [insert, Sorted]
  | cons first rest ih =>
    obtain ⟨k', v'⟩ := first
    have hrest : Sorted rest := List.Pairwise.of_cons h
    have hfirst : ∀ e ∈ rest, compare k' e.1 = .lt := fun e he => List.rel_of_pairwise_cons h he
    rw [insert]
    split
    · next hlt =>
      refine List.Pairwise.cons (fun e he => ?_) h
      rcases List.mem_cons.1 he with rfl | he
      · exact hlt
      · exact Std.TransCmp.lt_trans hlt (hfirst e he)
    · next heq =>
      exact List.Pairwise.cons
        (fun e he => Std.TransCmp.lt_of_eq_of_lt heq (hfirst e he)) hrest
    · next hgt =>
      refine List.Pairwise.cons (fun e he => ?_) (ih hrest)
      rcases mem_insert he with rfl | he
      · exact Std.OrientedCmp.lt_of_gt hgt
      · exact hfirst e he

theorem find?_insert_self [Ord κ] [DecidableEq κ] [Std.LawfulEqOrd κ] (k : κ) (v : α)
    (entries : List (κ × α)) : find? k (insert k v entries) = some v := by
  induction entries with
  | nil => simp [insert, find?]
  | cons first rest ih =>
    rw [insert]
    split
    · simp [find?]
    · simp [find?]
    · next hgt =>
      have hne : first.1 ≠ k := by
        intro h
        subst h
        simp at hgt
      simp [find?, hne, ih]

theorem find?_insert_of_ne [Ord κ] [DecidableEq κ] [Std.LawfulEqOrd κ] {k k' : κ} (h : k ≠ k')
    (v : α) (entries : List (κ × α)) : find? k' (insert k v entries) = find? k' entries := by
  induction entries with
  | nil => simp [insert, find?, h]
  | cons first rest ih =>
    rw [insert]
    split
    · simp [find?, h]
    · next heq =>
      have := Std.LawfulEqCmp.eq_of_compare heq
      simp [find?, ← this, h]
    · simp [find?, ih]

/-- The entries with other keys. -/
def erase [DecidableEq κ] (k : κ) (entries : List (κ × α)) : List (κ × α) :=
  entries.filter fun e => decide (e.1 ≠ k)

theorem find?_erase_self [DecidableEq κ] (k : κ) (entries : List (κ × α)) :
    find? k (erase k entries) = none := by
  induction entries with
  | nil => rfl
  | cons first rest ih => by_cases h : first.1 = k <;> simp_all [erase, find?]

theorem find?_erase_of_ne [DecidableEq κ] {k k' : κ} (h : k ≠ k') (entries : List (κ × α)) :
    find? k' (erase k entries) = find? k' entries := by
  induction entries with
  | nil => rfl
  | cons first rest ih => by_cases hk : first.1 = k <;> simp_all [erase, find?]

end Entries

/-! ### Maps -/

/-- A finite map whose entries stand in ascending order of their keys. -/
structure SortedMap (κ α : Type) [Ord κ] where
  entries : List (κ × α)
  sorted : Entries.Sorted entries
deriving DecidableEq

namespace SortedMap

variable [Ord κ]

def empty : SortedMap κ α := ⟨[], List.Pairwise.nil⟩

instance : Inhabited (SortedMap κ α) := ⟨empty⟩

def find? [DecidableEq κ] (m : SortedMap κ α) (k : κ) : Option α := Entries.find? k m.entries

def contains [DecidableEq κ] (m : SortedMap κ α) (k : κ) : Bool := (m.find? k).isSome

def keys (m : SortedMap κ α) : List κ := m.entries.map (·.1)

def values (m : SortedMap κ α) : List α := m.entries.map (·.2)

def size (m : SortedMap κ α) : Nat := m.entries.length

def isEmpty (m : SortedMap κ α) : Bool := m.entries.isEmpty

/-- Adds an entry, replacing one with the same key. -/
def insert [Std.TransOrd κ] (m : SortedMap κ α) (k : κ) (v : α) : SortedMap κ α :=
  ⟨Entries.insert k v m.entries, Entries.sorted_insert k v m.sorted⟩

/-- Removes the entry of a key, if there is one. -/
def erase [DecidableEq κ] (m : SortedMap κ α) (k : κ) : SortedMap κ α :=
  ⟨Entries.erase k m.entries, List.Pairwise.filter _ m.sorted⟩

/-- The map with the entries of a list, the last one of a repeated key. -/
def ofList [Std.TransOrd κ] (entries : List (κ × α)) : SortedMap κ α :=
  entries.foldl (fun m e => m.insert e.1 e.2) empty

/-- The entries of two maps, for a key of both that of the second. -/
def union [Std.TransOrd κ] (m m' : SortedMap κ α) : SortedMap κ α :=
  m'.entries.foldl (fun acc e => acc.insert e.1 e.2) m

@[simp]
theorem find?_empty [DecidableEq κ] (k : κ) : (empty : SortedMap κ α).find? k = none := rfl

@[simp]
theorem find?_insert_self [DecidableEq κ] [Std.TransOrd κ] [Std.LawfulEqOrd κ]
    (m : SortedMap κ α) (k : κ) (v : α) : (m.insert k v).find? k = some v :=
  Entries.find?_insert_self k v m.entries

theorem find?_insert_of_ne [DecidableEq κ] [Std.TransOrd κ] [Std.LawfulEqOrd κ]
    (m : SortedMap κ α) {k k' : κ} (h : k ≠ k') (v : α) :
    (m.insert k v).find? k' = m.find? k' :=
  Entries.find?_insert_of_ne h v m.entries

@[simp]
theorem find?_erase_self [DecidableEq κ] (m : SortedMap κ α) (k : κ) :
    (m.erase k).find? k = none :=
  Entries.find?_erase_self k m.entries

theorem find?_erase_of_ne [DecidableEq κ] (m : SortedMap κ α) {k k' : κ} (h : k ≠ k') :
    (m.erase k).find? k' = m.find? k' :=
  Entries.find?_erase_of_ne h m.entries

end SortedMap

end PropertyGraph
