import PropertyGraph.Proofs.Pattern.Bindings

/-!
# Binding beside other bindings

Variables can be bound where others are bound already (`Bindings.bindMore`).  This works if and only if
each name is given to one element, that to which it is bound if it is bound (`bindMore_isSome_iff`).  What
is looked up behind is what binding the variables alone and adding the result to the other bindings gives
(`map_find?_bindMore`), and does not depend on the order of the variables (`map_find?_bindMore_perm`).
Joining bindings with those that they have grown to gives the latter (`join_bindMore`).
-/

namespace PropertyGraph

namespace Bindings

variable {b b' : Bindings} {name : String} {x : Binding} {named more : List (String × Binding)}

/-! ### One variable after the other -/

/-- Binds variables one after the other beside those that are bound already, unless one is bound to
another element. -/
def bindMore (b : Bindings) (named : List (String × Binding)) : Option Bindings :=
  named.foldlM (fun b e => b.bind? (some e.1) e.2) b

theorem bindMore_cons (b : Bindings) (e : String × Binding) (named : List (String × Binding)) :
    b.bindMore (e :: named) = (b.bind? (some e.1) e.2).bind (·.bindMore named) := rfl

theorem bindMore_append (b : Bindings) (named more : List (String × Binding)) :
    b.bindMore (named ++ more) = (b.bindMore named).bind (·.bindMore more) := List.foldlM_append ..

/-- Binding a variable changes no lookup but that of a variable that was not bound. -/
theorem find?_bind? (h : b.bind? (some name) x = some b') (name' : String) :
    b'.find? name' = (b.find? name').or (if name = name' then some x else none) := by
  cases hfind : b.find? name with
  | some y =>
    rw [bind?_bound hfind] at h
    split_ifs at h
    obtain rfl := Option.some.inj h
    split_ifs with heq
    · rw [← heq, hfind]
      rfl
    · rw [Option.or_none]
  | none =>
    rw [bind?_unbound hfind] at h
    obtain rfl := Option.some.inj h
    exact find?_concat

/-- Behind, a variable is bound to the element that it is given, and to what it was bound to before. -/
theorem exists_find?_bind? (h : b.bind? (some name) x = some b') :
    ∃ y, b'.find? name = some y ∧ y.identity = x.identity ∧ ∀ z, b.find? name = some z → z = y := by
  have hfind' := find?_bind? h name
  cases hfind : b.find? name with
  | some y =>
    rw [bind?_bound hfind] at h
    split_ifs at h with hsame
    rw [hfind] at hfind'
    exact ⟨y, hfind', Binding.sameElement_iff.mp hsame, fun z hz => (Option.some.inj hz).symm⟩
  | none =>
    rw [hfind, if_pos rfl] at hfind'
    exact ⟨x, hfind', rfl, fun z hz => by cases hz⟩

/-- The lookups behind are those before, and else the first element that the name is given to. -/
theorem find?_bindMore (h : b.bindMore named = some b') (name : String) :
    b'.find? name = (b.find? name).or (Entries.find? name named) := by
  induction named generalizing b with
  | nil =>
    obtain rfl := Option.some.inj h
    exact (Option.or_none).symm
  | cons e rest ih =>
    obtain ⟨first, x⟩ := e
    rw [bindMore_cons, Option.bind_eq_some_iff] at h
    obtain ⟨b₁, hfirst, hrest⟩ := h
    have hcons : Entries.find? name ((first, x) :: rest)
        = (if first = name then some x else none).or (Entries.find? name rest) := by
      rw [Entries.find?]
      split_ifs <;> rfl
    rw [ih hrest, find?_bind? hfirst, Option.or_assoc, hcons]

/-- Each name is given to one element, and to that which it is bound to, if it is bound. -/
structure Admits (b : Bindings) (named : List (String × Binding)) : Prop where
  consistent : Consistent named
  bound : ∀ {name x y}, b.find? name = some x → (name, y) ∈ named → x.sameElement y

/-- One more name is admitted if it can be bound and the others are admitted then. -/
theorem admits_cons_iff :
    b.Admits ((name, x) :: named)
      ↔ ∃ b₁, b.bind? (some name) x = some b₁ ∧ b₁.Admits named := by
  constructor
  · rintro ⟨hconsistent, hbound⟩
    have hrest : Consistent named := fun name y z hy hz =>
      hconsistent name y z (List.mem_cons_of_mem _ hy) (List.mem_cons_of_mem _ hz)
    cases hfind : b.find? name with
    | some y =>
      refine ⟨b, ?_, hrest, fun hx hy => hbound hx (List.mem_cons_of_mem _ hy)⟩
      rw [bind?_bound hfind, if_pos (hbound hfind List.mem_cons_self)]
    | none =>
      have hbind := bind?_unbound (x := x) hfind
      refine ⟨_, hbind, hrest, fun {name' y z} hy hz => ?_⟩
      rw [find?_bind? hbind, Option.or_eq_some_iff] at hy
      rcases hy with hy | ⟨-, hy⟩
      · exact hbound hy (List.mem_cons_of_mem _ hz)
      · split_ifs at hy with heq
        obtain rfl := heq
        obtain rfl := Option.some.inj hy
        exact hconsistent name x z List.mem_cons_self (List.mem_cons_of_mem _ hz)
  · rintro ⟨b₁, hbind, hconsistent, hbound⟩
    obtain ⟨y, hy, hsame, hold⟩ := exists_find?_bind? hbind
    have hlater : ∀ z, (name, z) ∈ named → x.identity = z.identity := fun z hz =>
      hsame.symm.trans (Binding.sameElement_iff.mp (hbound hy hz))
    refine ⟨fun name' z w hz hw => ?_, fun {name' z w} hz hw => ?_⟩
    · rw [Binding.sameElement_iff]
      rcases List.mem_cons.mp hz with hfirst | hrest
      · obtain ⟨rfl, rfl⟩ := Prod.mk.inj hfirst
        rcases List.mem_cons.mp hw with hfirst' | hrest'
        · rw [(Prod.mk.inj hfirst').2]
        · exact hlater w hrest'
      · rcases List.mem_cons.mp hw with hfirst' | hrest'
        · obtain ⟨rfl, rfl⟩ := Prod.mk.inj hfirst'
          exact (hlater z hrest).symm
        · exact Binding.sameElement_iff.mp (hconsistent name' z w hrest hrest')
    · rcases List.mem_cons.mp hw with hfirst | hrest
      · obtain ⟨rfl, rfl⟩ := Prod.mk.inj hfirst
        rw [hold z hz]
        exact Binding.sameElement_iff.mpr hsame
      · refine hbound ?_ hrest
        rw [find?_bind? hbind, hz]
        rfl

/-- Binding more variables works if and only if they are admitted. -/
theorem bindMore_isSome_iff : (b.bindMore named).isSome ↔ b.Admits named := by
  induction named generalizing b with
  | nil =>
    refine iff_of_true rfl ⟨fun _ _ _ hx => (List.not_mem_nil hx).elim, fun _ hy => ?_⟩
    exact (List.not_mem_nil hy).elim
  | cons e rest ih =>
    rw [bindMore_cons, admits_cons_iff, Option.isSome_bind, Option.any_eq_true]
    exact exists_congr fun b₁ => and_congr_right' ih

theorem admits_empty_iff : Admits {} named ↔ Consistent named :=
  ⟨Admits.consistent, fun h => ⟨h, fun hx => by cases hx⟩⟩

/-- Names that are given to the same elements are admitted alike. -/
theorem Admits.of_subset (h : b.Admits named) (hsubset : more ⊆ named) : b.Admits more where
  consistent name x y hx hy := h.consistent name x y (hsubset hx) (hsubset hy)
  bound hx hy := h.bound hx (hsubset hy)

/-- Where an element is known from its identity, the order in which variables are bound does not matter
to what is looked up behind. -/
theorem map_find?_bindMore_perm (b : Bindings) (hperm : named.Perm more)
    (hknown : ∀ {name x y}, (name, x) ∈ named → (name, y) ∈ named → x.sameElement y → x = y) :
    (b.bindMore named).map find? = (b.bindMore more).map find? := by
  have hadmits : b.Admits named ↔ b.Admits more :=
    ⟨fun h => h.of_subset hperm.symm.subset, fun h => h.of_subset hperm.subset⟩
  rw [← bindMore_isSome_iff, ← bindMore_isSome_iff] at hadmits
  cases hnamed : b.bindMore named with
  | none =>
    rw [hnamed, Option.isSome_none] at hadmits
    rw [Option.not_isSome_iff_eq_none.mp fun h => Bool.false_ne_true (hadmits.mpr h)]
  | some b₁ =>
    obtain ⟨b₂, hmore⟩ := Option.isSome_iff_exists.mp (hadmits.mp (Option.isSome_of_eq_some hnamed))
    have hconsistent := (bindMore_isSome_iff.mp (Option.isSome_of_eq_some hnamed)).consistent
    have hfirst : ∀ name, Entries.find? name named = Entries.find? name more := by
      intro name
      have hnone : Entries.find? name named = none ↔ Entries.find? name more = none := by
        rw [Entries.find?_eq_none_iff, Entries.find?_eq_none_iff, (hperm.map Prod.fst).mem_iff]
      cases hx : Entries.find? name named with
      | none => exact (hnone.mp hx).symm
      | some x =>
        cases hy : Entries.find? name more with
        | none => rw [hnone.mpr hy] at hx; cases hx
        | some y =>
          have hx := Entries.mem_of_find?_eq_some hx
          have hy := hperm.mem_iff.mpr (Entries.mem_of_find?_eq_some hy)
          exact congrArg some (hknown hx hy (hconsistent name x y hx hy))
    rw [hmore]
    refine congrArg some (funext fun name => ?_)
    rw [find?_bindMore hnamed, find?_bindMore hmore, hfirst]

/-! ### Bindings that agree with others -/

/-- Whether what both bind is the same element in both. -/
def agrees (b others : Bindings) : Bool :=
  others.names.all fun name =>
    match b.find? name, others.find? name with
    | some x, some y => x.sameElement y
    | _, _ => true

theorem agrees_iff {others : Bindings} :
    b.agrees others = true ↔ ∀ name x y, b.find? name = some x → others.find? name = some y →
      x.sameElement y := by
  unfold agrees
  rw [List.all_eq_true]
  constructor
  · intro h name x y hx hy
    have hname := h name (List.mem_map_of_mem (Entries.mem_of_find?_eq_some hy))
    rw [hx, hy] at hname
    exact hname
  · intro h name _
    cases hx : b.find? name with
    | none => rfl
    | some x =>
      cases hy : others.find? name with
      | none => rfl
      | some y => exact h name x y hx hy

/-- Binding variables beside others is binding them alone and adding the result to the others, as long as
both agree. -/
theorem map_find?_bindMore (b : Bindings) (named : List (String × Binding)) :
    (b.bindMore named).map find? = (bindAll named).bind fun others =>
      if b.agrees others then some fun name => (b.find? name).or (others.find? name) else none := by
  have hall : (bindAll named).isSome ↔ Consistent named :=
    (bindMore_isSome_iff (b := {})).trans admits_empty_iff
  cases halone : bindAll named with
  | none =>
    rw [halone] at hall
    have hnone : b.bindMore named = none := Option.not_isSome_iff_eq_none.mp fun h =>
      Bool.false_ne_true (hall.mpr (bindMore_isSome_iff.mp h).consistent)
    rw [hnone]
    rfl
  | some others =>
    have hfind : ∀ name, others.find? name = Entries.find? name named :=
      find?_bindMore (b := {}) halone
    have hconsistent := hall.mp (Option.isSome_of_eq_some halone)
    have hadmits : b.Admits named ↔ b.agrees others = true := by
      rw [agrees_iff]
      constructor
      · intro h name x y hx hy
        exact h.bound hx (Entries.mem_of_find?_eq_some (hfind name ▸ hy))
      · refine fun h => ⟨hconsistent, fun {name x y} hx hy => ?_⟩
        cases hz : Entries.find? name named with
        | none => exact (Entries.find?_eq_none_iff.mp hz (List.mem_map_of_mem hy)).elim
        | some z =>
          have hsame := Binding.sameElement_iff.mp (h name x z hx ((hfind name).trans hz))
          have hfirst := hconsistent name z y (Entries.mem_of_find?_eq_some hz) hy
          exact Binding.sameElement_iff.mpr (hsame.trans (Binding.sameElement_iff.mp hfirst))
    rw [← bindMore_isSome_iff] at hadmits
    rw [Option.bind_some]
    cases hmore : b.bindMore named with
    | none =>
      rw [hmore] at hadmits
      exact (if_neg fun h => Bool.false_ne_true (hadmits.mpr h)).symm
    | some b' =>
      rw [if_pos (hadmits.mp (Option.isSome_of_eq_some hmore))]
      refine congrArg some (funext fun name => ?_)
      rw [find?_bindMore hmore, hfind]

/-! ### Joining -/

theorem joinEntries_of_bindMore (h : b.bindMore named = some b') :
    b.joinEntries named = (true, b') := by
  induction named generalizing b with
  | nil => rw [Option.some.inj h]; rfl
  | cons e rest ih =>
    rw [bindMore_cons, Option.bind_eq_some_iff] at h
    obtain ⟨b₁, hfirst, hrest⟩ := h
    rw [joinEntries, hfirst]
    exact ih hrest

theorem joinEntries_of_bindMore_eq_none (h : b.bindMore named = none) :
    (b.joinEntries named).1 = false := by
  induction named generalizing b with
  | nil => cases h
  | cons e rest ih =>
    rw [bindMore_cons] at h
    rw [joinEntries]
    cases hfirst : b.bind? (some e.1) e.2 with
    | none => rfl
    | some b₁ =>
      rw [hfirst] at h
      exact ih h

/-- Bindings that name each element once can be bound again and change nothing. -/
theorem bindMore_entries (hself : Consistent b.entries) : b.bindMore b.entries = some b := by
  have hagain : ∀ named, (∀ e ∈ named, ∃ x, b.find? e.1 = some x ∧ x.sameElement e.2) →
      b.bindMore named = some b := by
    intro named
    induction named with
    | nil => exact fun _ => rfl
    | cons e rest ih =>
      intro h
      obtain ⟨x, hx, hsame⟩ := h e List.mem_cons_self
      rw [bindMore_cons, bind?_bound hx, if_pos hsame]
      exact ih fun e' he' => h e' (List.mem_cons_of_mem _ he')
  refine hagain b.entries fun e he => ?_
  cases hx : b.find? e.1 with
  | none => exact (Entries.find?_eq_none_iff.mp hx (List.mem_map_of_mem he)).elim
  | some x => exact ⟨x, rfl, hself e.1 x e.2 (Entries.mem_of_find?_eq_some hx) he⟩

/-- What is bound beside other bindings stands behind them, and can be bound again. -/
theorem bindMore_self (hself : Consistent b.entries) (h : b.bindMore named = some b') :
    Consistent b'.entries ∧ b.bindMore b'.entries = some b' := by
  induction named using List.reverseRecOn generalizing b' with
  | nil =>
    obtain rfl := Option.some.inj h
    exact ⟨hself, bindMore_entries hself⟩
  | append_singleton named e ih =>
    rw [bindMore_append, Option.bind_eq_some_iff] at h
    obtain ⟨b₁, hnamed, hlast⟩ := h
    obtain ⟨hself₁, hagain⟩ := ih hnamed
    rw [bindMore_cons, Option.bind_eq_some_iff] at hlast
    obtain ⟨b₂, hlast, hsame⟩ := hlast
    obtain rfl := Option.some.inj hsame
    cases hfind : b₁.find? e.1 with
    | some x =>
      rw [bind?_bound hfind] at hlast
      split_ifs at hlast
      obtain rfl := Option.some.inj hlast
      exact ⟨hself₁, hagain⟩
    | none =>
      have hbind := bind?_unbound (x := e.2) hfind
      obtain rfl := Option.some.inj (hlast.symm.trans hbind)
      refine ⟨hself₁.concat fun y hy => ?_, ?_⟩
      · have hbound : e.1 ∈ b₁.entries.map Prod.fst := List.mem_map.mpr ⟨_, hy, rfl⟩
        exact (Entries.find?_eq_none_iff.mp hfind hbound).elim
      · rw [bindMore_append, hagain, Option.bind_some, bindMore_cons, hbind]
        rfl

/-- Joining bindings with those that come about by binding more gives the latter. -/
theorem join_bindMore (hself : Consistent b.entries) (h : b.bindMore named = some b') :
    b.join b' = (true, b') := joinEntries_of_bindMore (bindMore_self hself h).2

/-- What is bound more stands behind the rest. -/
theorem exists_entries_of_bindMore (h : b.bindMore named = some b') :
    ∃ new, b'.entries = b.entries ++ new := by
  induction named generalizing b with
  | nil =>
    obtain rfl := Option.some.inj h
    exact ⟨[], (List.append_nil _).symm⟩
  | cons e rest ih =>
    rw [bindMore_cons, Option.bind_eq_some_iff] at h
    obtain ⟨b₁, hfirst, hrest⟩ := h
    obtain ⟨new, hnew⟩ := ih hrest
    cases hfind : b.find? e.1 with
    | some x =>
      rw [bind?_bound hfind] at hfirst
      split_ifs at hfirst
      obtain rfl := Option.some.inj hfirst
      exact ⟨new, hnew⟩
    | none =>
      rw [bind?_unbound hfind] at hfirst
      obtain rfl := Option.some.inj hfirst
      exact ⟨e :: new, hnew.trans (List.append_cons ..).symm⟩

/-- Bindings that give one name to two elements cannot be joined, not even with what they grow to. -/
theorem join_of_not_consistent (hself : ¬ Consistent b.entries) (h : b.bindMore named = some b') :
    (b.join b').1 = false := by
  obtain ⟨new, hnew⟩ := exists_entries_of_bindMore h
  have hnone : b.bindMore b'.entries = none := by
    refine Option.not_isSome_iff_eq_none.mp fun hsome => hself ?_
    have hconsistent := (bindMore_isSome_iff.mp hsome).consistent
    rw [hnew] at hconsistent
    exact hconsistent.of_append
  exact joinEntries_of_bindMore_eq_none hnone

end Bindings

end PropertyGraph
