import Mathlib.Data.List.Induction
import PropertyGraph.Pattern.Bindings
import PropertyGraph.Proofs.Collection.SortedMap

/-!
# Binding variables in turn

Binding variables one after the other works if and only if a variable that comes up more than once
names the same element each time.  The bindings are then of the variables in the order of their
first occurrence, each to an element that it names (`bindAll_spec`).
-/

namespace PropertyGraph

theorem Binding.sameElement_iff {x y : Binding} :
    x.sameElement y = true ↔ x.identity = y.identity := beq_iff_eq

namespace Bindings

def names (b : Bindings) : List String := b.entries.map Prod.fst

/-- Binds variables one after the other, unless one is bound to another element. -/
def bindAll (named : List (String × Binding)) : Option Bindings :=
  named.foldlM (fun b e => b.bind? (some e.1) e.2) {}

/-- A variable that comes up more than once names the same element each time. -/
def Consistent (named : List (String × Binding)) : Prop :=
  ∀ name x y, (name, x) ∈ named → (name, y) ∈ named → x.sameElement y

variable {b : Bindings} {name : String} {x : Binding} {named : List (String × Binding)}

theorem Consistent.of_append {more : List (String × Binding)} (h : Consistent (named ++ more)) :
    Consistent named :=
  fun name x y hx hy => h name x y (List.mem_append_left more hx) (List.mem_append_left more hy)

/-- One more element keeps names consistent if it is the same as those of its name. -/
theorem Consistent.concat (h : Consistent named)
    (hsame : ∀ y, (name, y) ∈ named → y.sameElement x) : Consistent (named ++ [(name, x)]) := by
  have hsame' : ∀ y, (name, y) ∈ named → x.sameElement y := by
    intro y hy
    rw [Binding.sameElement_iff]
    exact (Binding.sameElement_iff.mp (hsame y hy)).symm
  intro name' y z hy hz
  rw [List.mem_append, List.mem_singleton, Prod.mk.injEq] at hy hz
  rcases hy with hy | ⟨rfl, rfl⟩
  · rcases hz with hz | ⟨rfl, rfl⟩
    · exact h name' y z hy hz
    · exact hsame y hy
  · rcases hz with hz | ⟨-, rfl⟩
    · exact hsame' z hz
    · exact Binding.sameElement_iff.mpr rfl

/-! ### One variable -/

theorem place_of_find?_eq_none {entries : List (String × Binding)}
    (h : Entries.find? name entries = none) : place name x entries = entries ++ [(name, x)] := by
  induction entries with
  | nil => rfl
  | cons first rest ih =>
    rw [Entries.find?] at h
    split_ifs at h with heq
    rw [place, if_neg heq, ih h]
    rfl

theorem find?_concat {entries : List (String × Binding)} {name' : String} :
    Entries.find? name' (entries ++ [(name, x)])
      = (Entries.find? name' entries).or (if name = name' then some x else none) := by
  induction entries with
  | nil => rfl
  | cons first rest ih =>
    rw [List.cons_append, Entries.find?, Entries.find?]
    split_ifs at ih ⊢ <;> first | rfl | exact ih

theorem bind?_bound {y : Binding} (h : b.find? name = some y) :
    b.bind? (some name) x = if y.sameElement x then some b else none := by
  unfold bind?
  dsimp only
  rw [h]

theorem bind?_unbound (h : b.find? name = none) :
    b.bind? (some name) x = some ⟨b.entries ++ [(name, x)]⟩ := by
  unfold bind?
  dsimp only
  rw [h]
  exact congrArg (fun entries => some (Bindings.mk entries)) (place_of_find?_eq_none h)

/-- The bindings are what the names say. -/
structure Reflects (named : List (String × Binding)) (b : Bindings) : Prop where
  names : b.names = (named.map Prod.fst).eraseDups
  mem_of_find? : ∀ {name x}, b.find? name = some x → (name, x) ∈ named

theorem Reflects.find?_eq_none_iff (h : b.Reflects named) :
    b.find? name = none ↔ ∀ x, (name, x) ∉ named := by
  have hnames : b.find? name = none ↔ name ∉ b.names := Entries.find?_eq_none_iff
  rw [hnames, h.names, List.mem_eraseDups, List.mem_map, not_exists]
  exact ⟨fun hnot x hx => hnot (name, x) ⟨hx, rfl⟩, fun hnot ⟨_, x⟩ ⟨hx, heq⟩ => hnot x (heq ▸ hx)⟩

theorem Reflects.concat_bound (h : b.Reflects named) (hx : name ∈ named.map Prod.fst) :
    b.Reflects (named ++ [(name, x)]) := by
  refine ⟨?_, fun hfind => List.mem_append_left _ (h.mem_of_find? hfind)⟩
  rw [h.names, List.map_append, List.eraseDups_append]
  simp [List.removeAll, hx]

theorem Reflects.concat_unbound (h : b.Reflects named) (hx : name ∉ named.map Prod.fst) :
    Reflects (named ++ [(name, x)]) ⟨b.entries ++ [(name, x)]⟩ := by
  refine ⟨?_, fun {name' x'} hfind => ?_⟩
  · rw [List.map_append, List.eraseDups_append, ← h.names]
    simp [List.removeAll, hx, Bindings.names, List.eraseDups_cons]
  · rw [Bindings.find?, find?_concat, Option.or_eq_some_iff] at hfind
    rcases hfind with hfind | ⟨-, hfind⟩
    · exact List.mem_append_left _ (h.mem_of_find? hfind)
    · split_ifs at hfind with heq
      rw [← heq, ← Option.some.inj hfind]
      exact List.mem_append_right _ (List.mem_singleton_self _)

/-- A variable can be bound if and only if the names stay consistent with it. -/
theorem Reflects.bind? (h : b.Reflects named) (hconsistent : Consistent named) :
    match b.bind? (some name) x with
    | some b' => Consistent (named ++ [(name, x)]) ∧ b'.Reflects (named ++ [(name, x)])
    | none => ¬ Consistent (named ++ [(name, x)]) := by
  cases hfind : b.find? name with
  | some y =>
    have hy : (name, y) ∈ named := h.mem_of_find? hfind
    rw [bind?_bound hfind]
    by_cases hsame : y.sameElement x = true
    · rw [if_pos hsame]
      refine ⟨hconsistent.concat fun z hz => ?_, h.concat_bound (List.mem_map_of_mem hy)⟩
      have hzy := Binding.sameElement_iff.mp (hconsistent name z y hz hy)
      exact Binding.sameElement_iff.mpr (hzy.trans (Binding.sameElement_iff.mp hsame))
    · rw [if_neg hsame]
      refine fun h => hsame (h name y x (List.mem_append_left _ hy) ?_)
      exact List.mem_append_right _ (List.mem_singleton_self _)
  | none =>
    have hnew : ∀ y, (name, y) ∉ named := h.find?_eq_none_iff.mp hfind
    rw [bind?_unbound hfind]
    refine ⟨hconsistent.concat fun y hy => (hnew y hy).elim, h.concat_unbound fun hmem => ?_⟩
    obtain ⟨⟨_, y⟩, hy, rfl⟩ := List.mem_map.mp hmem
    exact hnew y hy

/-! ### All variables -/

theorem bindAll_append (named more : List (String × Binding)) :
    bindAll (named ++ more)
      = (bindAll named).bind (more.foldlM (fun b e => b.bind? (some e.1) e.2)) :=
  List.foldlM_append ..

/-- Binding in turn succeeds if and only if the names are consistent. -/
theorem bindAll_spec (named : List (String × Binding)) :
    match bindAll named with
    | some b => Consistent named ∧ b.Reflects named
    | none => ¬ Consistent named := by
  induction named using List.reverseRecOn with
  | nil =>
    refine ⟨fun _ _ _ hx => (List.not_mem_nil hx).elim, rfl, fun hx => ?_⟩
    cases hx
  | append_singleton named e ih =>
    rw [bindAll_append]
    cases hall : bindAll named with
    | none =>
      rw [hall] at ih
      exact fun h => ih h.of_append
    | some b =>
      rw [hall] at ih
      simp only [Option.bind_some, List.foldlM_cons, List.foldlM_nil, bind_pure]
      exact ih.2.bind? ih.1

end Bindings

end PropertyGraph
