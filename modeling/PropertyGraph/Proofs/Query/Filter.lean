import Mathlib.Data.List.Infix
import PropertyGraph.Proofs.Query.Traversal
import PropertyGraph.Regex.Parser

/-!
# What filter records mean

`Filter.ofJson_correct` says which records are read as filters (`Acceptable`) and of which rows the
filters hold (`Meets`).  Neither looks at the filters that are read: both follow the record, entry
by entry.  What regular expressions are and what they match is up to the engine, whichever it is.

The functions that read a record are compared with it by `Answers`: what was read has the meaning,
or what was given is not acceptable.  Reading one thing after the other composes (`Answers.both`), so
each function needs one lemma, and those of the functions that call each other are proved together.
-/

namespace PropertyGraph

section AnyEngine

variable {ρ : Type} [RegexEngine ρ]

/-! ### Operators -/

namespace Operator

/-- The operands of an operator: a text that the engine reads as a regular expression, a string
where the ends of strings are compared, and any value elsewhere. -/
def Admits (op : Operator) (operand : Value) : Prop :=
  match op with
  | .regex => ∃ pattern, operand = .string pattern ∧ (RegexEngine.compile? pattern).isSome
  | .startsWith | .endsWith => ∃ s, operand = .string s
  | _ => True

/-- What an operator says of a value and an operand. -/
def Compares (op : Operator) (actual operand : Value) : Prop :=
  match op with
  | .eq => actual.looseEquals operand
  | .neq => ¬ actual.looseEquals operand
  | .gt => actual.compare? operand = some .gt
  | .gte => actual.compare? operand = some .gt ∨ actual.compare? operand = some .eq
  | .lt => actual.compare? operand = some .lt
  | .lte => actual.compare? operand = some .lt ∨ actual.compare? operand = some .eq
  | .contains =>
    (∃ s t, actual = .string s ∧ operand = .string t ∧ t.toList <:+: s.toList) ∨
      ∃ items, actual = .list items ∧ ∃ item ∈ items, item.looseEquals operand
  | .startsWith => ∃ s t, actual = .string s ∧ operand = .string t ∧ t.toList <+: s.toList
  | .endsWith => ∃ s t, actual = .string s ∧ operand = .string t ∧ t.toList <:+ s.toList
  | .regex =>
    ∃ s pattern r, actual = .string s ∧ operand = .string pattern ∧
      RegexEngine.compile? pattern = some r ∧ RegexEngine.isMatch r s

theorem occursIn_iff (needle text : List Char) : occursIn needle text ↔ needle <:+: text := by
  induction text with
  | nil => rw [occursIn, List.isEmpty_iff, List.infix_nil]
  | cons c rest ih =>
    rw [occursIn, Bool.or_eq_true, List.isPrefixOf_iff_prefix, ih, List.infix_cons_iff]

theorem matchesRegex_iff (pattern text : String) :
    matchesRegex pattern text ↔
      ∃ r, RegexEngine.compile? pattern = some r ∧ RegexEngine.isMatch r text := by
  unfold matchesRegex
  cases RegexEngine.compile? pattern with
  | none => simp
  | some r => simp

/-- A test of two strings fails of all other values. -/
theorem onStrings_iff (actual operand : Value) (test : String → String → Bool) :
    (match actual, operand with
      | .string s, .string t => test s t
      | _, _ => false) = true ↔
      ∃ s t, actual = .string s ∧ operand = .string t ∧ test s t := by
  split
  · simp
  · next hstrings =>
    constructor
    · exact fun h => absurd h Bool.false_ne_true
    · rintro ⟨s, t, rfl, rfl, -⟩
      exact (hstrings s t rfl rfl).elim

/-- An operator is evaluated as it says. -/
theorem evaluate_iff (op : Operator) (field : Option Value) (operand : Value) :
    op.evaluate field operand ↔ op.Compares (field.getD .null) operand := by
  unfold evaluate
  generalize field.getD .null = actual
  cases op with
  | eq => rfl
  | neq => simp [Compares]
  | gt => simp [Compares]
  | gte => simp [Compares]
  | lt => simp [Compares]
  | lte => simp [Compares]
  | contains =>
    dsimp only [Compares]
    split
    · simp [occursIn_iff]
    · simp
    · next hlist hstrings =>
      constructor
      · exact fun h => absurd h Bool.false_ne_true
      · rintro (⟨s, t, rfl, rfl, -⟩ | ⟨items, rfl, -⟩)
        · exact (hstrings s t rfl rfl).elim
        · exact (hlist items rfl).elim
  | startsWith =>
    refine (onStrings_iff actual operand fun s t => t.toList.isPrefixOf s.toList).trans ?_
    simp only [Compares, List.isPrefixOf_iff_prefix]
  | endsWith =>
    refine (onStrings_iff actual operand fun s t => t.toList.isSuffixOf s.toList).trans ?_
    simp only [Compares, List.isSuffixOf_iff_suffix]
  | regex =>
    refine (onStrings_iff actual operand fun s pattern => matchesRegex pattern s).trans ?_
    simp only [Compares, matchesRegex_iff, exists_and_left]

/-- The check lets exactly the operands through that the operator can use. -/
theorem check_eq_ok_iff (op : Operator) (operand : Value) :
    op.check operand = .ok () ↔ op.Admits operand := by
  cases op with
  | regex =>
    cases operand with
    | string pattern => simp [check, Admits, Option.isSome_iff_ne_none]
    | _ => simp [check, Admits]
  | startsWith => cases operand <;> simp [check, Admits]
  | endsWith => cases operand <;> simp [check, Admits]
  | _ => simp [check, Admits]

theorem name_injective {op op' : Operator} (h : op.name = op'.name) : op = op' := by
  cases op <;> cases op' <;> first | rfl | exact absurd h (by decide)

end Operator

/-- A name that starts with a dollar sign. -/
def IsReserved (key : String) : Prop := ∃ rest, key = "$" ++ rest

theorem isOperatorName_iff (key : String) : Filter.isOperatorName key ↔ IsReserved key := by
  unfold Filter.isOperatorName
  constructor
  · intro h
    split at h
    · next rest hkey =>
      refine ⟨String.ofList rest, String.toList_inj.mp ?_⟩
      simp [hkey]
    · exact absurd h Bool.false_ne_true
  · rintro ⟨rest, rfl⟩
    simp

namespace Operator

/-- An operator is found by its name behind a dollar sign. -/
theorem ofName_eq_ok_iff {name : String} (h : IsReserved name) (op : Operator) :
    ofName name = .ok op ↔ name = "$" ++ op.name := by
  obtain ⟨rest, rfl⟩ := h
  have hbare : bareName ("$" ++ rest) = rest := by
    simp [bareName]
  have hmem : op ∈ all := by cases op <;> decide
  rw [ofName, hbare]
  constructor
  · intro h
    split at h
    · next found hfound =>
      obtain rfl := Except.ok.inj h
      have hname := List.find?_some hfound
      rw [eq_of_beq hname]
    · cases h
  · intro h
    have hrest : rest = op.name := by
      simpa using h
    rw [hrest]
    split
    · next found hfound =>
      have hname := List.find?_some hfound
      rw [name_injective (eq_of_beq hname)]
    · next hnone =>
      exact absurd (beq_self_eq_true op.name) (List.find?_eq_none.mp hnone op hmem)

end Operator

/-! ### Records -/

namespace Filter

/-- An object of operators: it has members, and their names are all reserved. -/
def IsOperators (given : Json) : Prop :=
  ∃ members, given = .object members ∧ members ≠ [] ∧ ∀ m ∈ members, IsReserved m.1

/-- A member of an object of operators names one and gives it an operand that it can use. -/
def AcceptableOperator (name : String) (operand : Json) : Prop :=
  ∃ op : Operator, name = "$" ++ op.name ∧ op.Admits (Value.ofJson operand)

mutual

/-- What can be read as a filter: an object of acceptable entries. -/
inductive Acceptable : Json → Prop where
  | record {members : List (String × Json)} :
    (∀ m ∈ members, AcceptableEntry m.1 m.2) → Acceptable (.object members)

/-- An entry of a filter record: a group of records, operators on a field, or a value of a field. -/
inductive AcceptableEntry : String → Json → Prop where
  | group {key : String} {items : List Json} : key = "$and" ∨ key = "$or" →
    (∀ j ∈ items, Acceptable j) → AcceptableEntry key (.array items)
  | operators {field : String} {members : List (String × Json)} : ¬ IsReserved field →
    IsOperators (.object members) → (∀ m ∈ members, AcceptableOperator m.1 m.2) →
    AcceptableEntry field (.object members)
  | literal {field : String} {given : Json} : ¬ IsReserved field → ¬ IsOperators given →
    AcceptableEntry field given

end

/-- A member of an object of operators holds of a value. -/
def MeetsOperator (actual : Value) (name : String) (operand : Json) : Prop :=
  ∃ op : Operator, name = "$" ++ op.name ∧ op.Compares actual (Value.ofJson operand)

mutual

/-- The row meets every entry of a filter record. -/
inductive Meets (row : Value) : Json → Prop where
  | record {members : List (String × Json)} :
    (∀ m ∈ members, MeetsEntry row m.1 m.2) → Meets row (.object members)

/-- The row meets an entry: all records of an `$and`, some record of an `$or`, all operators on the
field, or it has a value loosely equal to the one given. -/
inductive MeetsEntry (row : Value) : String → Json → Prop where
  | and {key : String} {items : List Json} : key = "$and" → (∀ j ∈ items, Meets row j) →
    MeetsEntry row key (.array items)
  | or {key : String} {items : List Json} {j : Json} : key = "$or" → j ∈ items → Meets row j →
    MeetsEntry row key (.array items)
  | operators {field : String} {members : List (String × Json)} : ¬ IsReserved field →
    IsOperators (.object members) →
    (∀ m ∈ members, MeetsOperator ((row.lookup? field).getD .null) m.1 m.2) →
    MeetsEntry row field (.object members)
  | literal {field : String} {given : Json} : ¬ IsReserved field → ¬ IsOperators given →
    ((row.lookup? field).getD .null).looseEquals (Value.ofJson given) →
    MeetsEntry row field given

end

/-! ### Kinds of entries -/

theorem acceptable_object_iff (members : List (String × Json)) :
    Acceptable (.object members) ↔ ∀ m ∈ members, AcceptableEntry m.1 m.2 :=
  ⟨fun h => by cases h with | record h => exact h, .record⟩

theorem meets_object_iff (row : Value) (members : List (String × Json)) :
    Meets row (.object members) ↔ ∀ m ∈ members, MeetsEntry row m.1 m.2 :=
  ⟨fun h => by cases h with | record h => exact h, .record⟩

theorem isReserved_and : IsReserved "$and" := ⟨"and", by decide⟩

theorem isReserved_or : IsReserved "$or" := ⟨"or", by decide⟩

theorem isReserved_of_group {key : String} (h : key = "$and" ∨ key = "$or") : IsReserved key := by
  rcases h with rfl | rfl
  · exact isReserved_and
  · exact isReserved_or

theorem acceptableEntry_group_iff {key : String} (h : key = "$and" ∨ key = "$or") (given : Json) :
    AcceptableEntry key given ↔ ∃ items, given = .array items ∧ ∀ j ∈ items, Acceptable j := by
  constructor
  · intro hentry
    cases hentry with
    | group _ hitems => exact ⟨_, rfl, hitems⟩
    | operators hfree => exact absurd (isReserved_of_group h) hfree
    | literal hfree => exact absurd (isReserved_of_group h) hfree
  · rintro ⟨items, rfl, hitems⟩
    exact .group h hitems

theorem meetsEntry_and_iff (row : Value) (items : List Json) :
    MeetsEntry row "$and" (.array items) ↔ ∀ j ∈ items, Meets row j := by
  constructor
  · intro h
    cases h with
    | and _ hall => exact hall
    | or hkey => exact absurd hkey (by decide)
    | literal hfree => exact absurd isReserved_and hfree
  · exact .and rfl

theorem meetsEntry_or_iff (row : Value) (items : List Json) :
    MeetsEntry row "$or" (.array items) ↔ ∃ j ∈ items, Meets row j := by
  constructor
  · intro h
    cases h with
    | and hkey => exact absurd hkey (by decide)
    | or _ hj hmeets => exact ⟨_, hj, hmeets⟩
    | literal hfree => exact absurd isReserved_or hfree
  · rintro ⟨j, hj, hmeets⟩
    exact .or rfl hj hmeets

theorem not_acceptableEntry_of_isReserved {key : String} {given : Json}
    (hgroup : ¬ (key = "$and" ∨ key = "$or")) (h : IsReserved key) :
    ¬ AcceptableEntry key given := by
  intro hentry
  cases hentry with
  | group hkey => exact hgroup hkey
  | operators hfree => exact hfree h
  | literal hfree => exact hfree h

section Fields

variable {field : String} (hfree : ¬ IsReserved field)
include hfree

theorem acceptableEntry_operators_iff {members : List (String × Json)}
    (h : IsOperators (.object members)) :
    AcceptableEntry field (.object members) ↔ ∀ m ∈ members, AcceptableOperator m.1 m.2 := by
  constructor
  · intro hentry
    cases hentry with
    | operators _ _ hall => exact hall
    | literal _ hnone => exact absurd h hnone
  · exact .operators hfree h

theorem meetsEntry_operators_iff (row : Value) {members : List (String × Json)}
    (h : IsOperators (.object members)) :
    MeetsEntry row field (.object members) ↔
      ∀ m ∈ members, MeetsOperator ((row.lookup? field).getD .null) m.1 m.2 := by
  constructor
  · intro hentry
    cases hentry with
    | operators _ _ hall => exact hall
    | literal _ hnone => exact absurd h hnone
  · exact .operators hfree h

theorem meetsEntry_literal_iff (row : Value) {given : Json} (h : ¬ IsOperators given) :
    MeetsEntry row field given ↔
      ((row.lookup? field).getD .null).looseEquals (Value.ofJson given) := by
  constructor
  · intro hentry
    cases hentry with
    | and hkey => exact absurd (isReserved_of_group (.inl hkey)) hfree
    | or hkey => exact absurd (isReserved_of_group (.inr hkey)) hfree
    | operators _ hops => exact absurd hops h
    | literal _ _ hequal => exact hequal
  · exact .literal hfree h

end Fields

/-! ### Reading and meaning -/

/-- What is read has the meaning, where something acceptable is given, and nothing else is read. -/
def Answers {α : Type} (read : Except Error α) (acceptable : Prop) (means : α → Prop) : Prop :=
  match read with
  | .ok a => acceptable ∧ means a
  | .error _ => ¬ acceptable

namespace Answers

variable {α β γ : Type} {read : Except Error α} {readNext : Except Error β} {P Q : Prop}
  {means : α → Prop} {meansNext : β → Prop}

/-- Two things are read one after the other: both must be acceptable. -/
theorem both {combine : α → β → γ} {meansBoth : γ → Prop} (h : Answers read P means)
    (hnext : Answers readNext Q meansNext)
    (hcombine : ∀ a b, means a → meansNext b → meansBoth (combine a b)) :
    Answers (do let a ← read; let b ← readNext; return combine a b) (P ∧ Q) meansBoth := by
  cases read with
  | error e => exact fun hboth => h hboth.1
  | ok a =>
    cases readNext with
    | error e => exact fun hboth => hnext hboth.2
    | ok b => exact ⟨⟨h.1, hnext.1⟩, hcombine a b h.2 hnext.2⟩

theorem congr {means' : α → Prop} (h : Answers read P means) (hacceptable : P ↔ Q)
    (hmeans : ∀ a, means a → means' a) : Answers read Q means' := by
  cases read with
  | error e => exact fun hQ => h (hacceptable.mpr hQ)
  | ok a => exact ⟨hacceptable.mp h.1, hmeans a h.2⟩

end Answers

/-- The filters hold of exactly the rows with some property. -/
def HoldIff (meets : Value → Prop) (filters : List Filter) : Prop :=
  ∀ row, allHold row filters ↔ meets row

theorem HoldIff.cons {meets meets' : Value → Prop} {f : Filter} {fs : List Filter}
    (hf : ∀ row, holds row f ↔ meets row) (hfs : HoldIff meets' fs) :
    HoldIff (fun row => meets row ∧ meets' row) (f :: fs) := by
  intro row
  rw [allHold, Bool.and_eq_true, hf row, hfs row]

theorem HoldIff.append {meets meets' : Value → Prop} {fs gs : List Filter} (hf : HoldIff meets fs)
    (hg : HoldIff meets' gs) : HoldIff (fun row => meets row ∧ meets' row) (fs ++ gs) := by
  intro row
  rw [allHold_append, Bool.and_eq_true, hf row, hg row]

theorem condition_holds_iff (field : String) (op : Operator) (operand row : Value) :
    holds row (.condition ⟨field, op, operand⟩) ↔
      op.Compares ((row.lookup? field).getD .null) operand :=
  op.evaluate_iff (row.lookup? field) operand

theorem check_answers (op : Operator) (operand : Value) :
    Answers (op.check operand) (op.Admits operand) fun _ => True := by
  cases hcheck : op.check operand with
  | error e =>
    intro hadmits
    rw [(op.check_eq_ok_iff operand).mpr hadmits] at hcheck
    cases hcheck
  | ok u => exact ⟨(op.check_eq_ok_iff operand).mp hcheck, trivial⟩

/-- The members of an object of operators are read in turn. -/
theorem operatorConditions_answers (field : String) (members : List (String × Json))
    (h : ∀ m ∈ members, IsReserved m.1) :
    Answers (operatorConditions field members) (∀ m ∈ members, AcceptableOperator m.1 m.2)
      (HoldIff fun row =>
        ∀ m ∈ members, MeetsOperator ((row.lookup? field).getD .null) m.1 m.2) := by
  induction members with
  | nil => exact ⟨by simp, fun row => by simp [allHold]⟩
  | cons m rest ih =>
    obtain ⟨name, operand⟩ := m
    rw [List.forall_mem_cons] at h
    have hrest := ih h.2
    have hname := Operator.ofName_eq_ok_iff h.1
    simp only [List.forall_mem_cons]
    rw [operatorConditions]
    cases hread : Operator.ofName name with
    | error e =>
      rintro ⟨⟨op, hop, -⟩, -⟩
      rw [(hname op).mpr hop] at hread
      cases hread
    | ok op =>
      -- the name stands for this operator and no other
      have honly : ∀ op' : Operator, name = "$" ++ op'.name ↔ op' = op := by
        intro op'
        rw [← hname op', hread]
        exact ⟨fun h => (Except.ok.inj h).symm, fun h => congrArg _ h.symm⟩
      have hacceptable : AcceptableOperator name operand ↔ op.Admits (Value.ofJson operand) := by
        simp [AcceptableOperator, honly]
      have hmeets : ∀ row : Value,
          holds row (.condition ⟨field, op, Value.ofJson operand⟩) ↔
            MeetsOperator ((row.lookup? field).getD .null) name operand := by
        intro row
        simp [condition_holds_iff, MeetsOperator, honly]
      rw [hacceptable]
      exact (check_answers op (Value.ofJson operand)).both hrest fun _ fs _ hfs => hfs.cons hmeets

/-- What an entry of a free name asks of the field. -/
theorem ofField_answers {field : String} (hfree : ¬ IsReserved field) (given : Json) :
    Answers (ofField field given) (AcceptableEntry field given)
      (HoldIff fun row => MeetsEntry row field given) := by
  by_cases h : IsOperators given
  · obtain ⟨members, rfl, hne, hall⟩ := id h
    have hread : ofField field (.object members) = operatorConditions field members := by
      have htest : (!members.isEmpty && members.all fun m => isOperatorName m.1) = true := by
        simpa [isOperatorName_iff, hne] using hall
      rw [ofField, if_pos htest]
    rw [hread, acceptableEntry_operators_iff hfree h]
    refine (operatorConditions_answers field members hall).congr Iff.rfl fun fs hfs row => ?_
    exact (hfs row).trans (meetsEntry_operators_iff hfree row h).symm
  · have hread : ofField field given = .ok [.condition ⟨field, .eq, Value.ofJson given⟩] := by
      cases given with
      | object members =>
        have htest : ¬ (!members.isEmpty && members.all fun m => isOperatorName m.1) = true := by
          intro htest
          exact h ⟨members, rfl, by simpa [isOperatorName_iff] using htest⟩
        rw [ofField, if_neg htest]
      | _ => rfl
    rw [hread]
    refine ⟨.literal hfree h, fun row => ?_⟩
    have hcondition := condition_holds_iff field .eq (Value.ofJson given) row
    rw [allHold, allHold, Bool.and_true, hcondition]
    exact (meetsEntry_literal_iff hfree row h).symm

/-! ### Groups -/

/-- Each filter of a group holds of the rows that meet the record in its place. -/
def Members (parts : List Filter) (items : List Json) : Prop :=
  List.Forall₂ (fun f j => ∀ row, holds row f ↔ Meets row j) parts items

theorem conjunction_holds (row : Value) (parts : List Filter) :
    holds row (conjunction parts) = allHold row parts := by
  unfold conjunction
  split
  · rw [allHold, allHold, Bool.and_true]
  · rw [holds]

theorem Members.all_iff {parts : List Filter} {items : List Json} (h : Members parts items)
    (row : Value) : holds row (.all parts) ↔ ∀ j ∈ items, Meets row j := by
  rw [holds]
  induction h with
  | nil => simp [allHold]
  | cons hf _ ih => rw [allHold, Bool.and_eq_true, hf row, ih, List.forall_mem_cons]

theorem Members.any_iff {parts : List Filter} {items : List Json} (h : Members parts items)
    (row : Value) : holds row (.any parts) ↔ ∃ j ∈ items, Meets row j := by
  rw [holds]
  induction h with
  | nil => simp [anyHolds]
  | cons hf _ ih => rw [anyHolds, Bool.or_eq_true, hf row, ih, List.exists_mem_cons_iff]

/-- A group holds as its key says. -/
theorem group_holds_iff {key : String} (hkey : key = "$and" ∨ key = "$or") {parts : List Filter}
    {items : List Json} (h : Members parts items) (row : Value) :
    holds row (if key = "$and" then .all parts else .any parts) ↔
      MeetsEntry row key (.array items) := by
  rcases hkey with rfl | rfl
  · rw [if_pos rfl, h.all_iff row, meetsEntry_and_iff]
  · rw [if_neg (by decide), h.any_iff row, meetsEntry_or_iff]

/-! ### Reading records -/

-- The recursion is that of the readers: a record calls its entries, an entry its group, and a group
-- the records in it.

mutual

theorem ofJson_answers : ∀ given : Json,
    Answers (ofJson given) (Acceptable given) (HoldIff fun row => Meets row given)
  | .object members => by
    have hmembers := ofMembers_answers members
    rw [ofJson]
    refine hmembers.congr (acceptable_object_iff members).symm fun fs hfs row => ?_
    exact (hfs row).trans (meets_object_iff row members).symm
  | .null => nofun
  | .bool _ => nofun
  | .number _ => nofun
  | .string _ => nofun
  | .array _ => nofun

theorem ofMembers_answers : ∀ members : List (String × Json),
    Answers (ofMembers members) (∀ m ∈ members, AcceptableEntry m.1 m.2)
      (HoldIff fun row => ∀ m ∈ members, MeetsEntry row m.1 m.2)
  | [] => ⟨by simp, fun row => by simp [allHold]⟩
  | (key, given) :: rest => by
    have hrest := ofMembers_answers rest
    simp only [List.forall_mem_cons]
    rw [ofMembers]
    by_cases hkey : key = "$and" ∨ key = "$or"
    · -- a group is one filter in front of those of the other entries
      rw [if_pos hkey, acceptableEntry_group_iff hkey]
      refine (ofGroup_answers key given).both hrest fun parts fs hparts hfs => ?_
      obtain ⟨items, rfl, hparts⟩ := hparts
      exact hfs.cons (group_holds_iff hkey hparts)
    · rw [if_neg hkey]
      by_cases hreserved : IsReserved key
      · -- no other reserved name is read, and none is acceptable
        rw [if_pos ((isOperatorName_iff key).mpr hreserved)]
        intro hall
        exact not_acceptableEntry_of_isReserved hkey hreserved hall.1
      · rw [if_neg fun h => hreserved ((isOperatorName_iff key).mp h)]
        exact (ofField_answers hreserved given).both hrest fun parts fs hparts hfs =>
          hparts.append hfs

theorem ofGroup_answers (key : String) : ∀ given : Json,
    Answers (ofGroup key given) (∃ items, given = .array items ∧ ∀ j ∈ items, Acceptable j)
      (fun parts => ∃ items, given = .array items ∧ Members parts items)
  | .array items => by
    have hitems := ofItems_answers items
    rw [ofGroup]
    refine hitems.congr ?_ fun parts hparts => ⟨items, rfl, hparts⟩
    simp
  | .null => by simp [Answers, ofGroup]
  | .bool _ => by simp [Answers, ofGroup]
  | .number _ => by simp [Answers, ofGroup]
  | .string _ => by simp [Answers, ofGroup]
  | .object _ => by simp [Answers, ofGroup]

theorem ofItems_answers : ∀ items : List Json,
    Answers (ofItems items) (∀ j ∈ items, Acceptable j) (fun parts => Members parts items)
  | [] => ⟨by simp, .nil⟩
  | item :: rest => by
    have hitem := ofJson_answers item
    have hrest := ofItems_answers rest
    rw [ofItems]
    rw [List.forall_mem_cons]
    refine hitem.both hrest fun parts fs hparts hfs => .cons (fun row => ?_) hfs
    -- whether or not the conjunction is unwrapped, it holds as all its parts do
    rw [conjunction_holds]
    exact hparts row

end

/-- **Filters mean what they say.**  A JSON value can be read as a filter if and only if it is an
object of acceptable entries, at every depth, and then the filters that are read all hold of exactly
the rows that meet every entry. -/
theorem ofJson_correct (given : Json) :
    ((∃ filters, ofJson given = .ok filters) ↔ Acceptable given) ∧
      ∀ filters, ofJson given = .ok filters → ∀ row, allHold row filters ↔ Meets row given := by
  have h := ofJson_answers given
  cases hread : ofJson given with
  | error e =>
    rw [hread] at h
    refine ⟨⟨?_, fun hacceptable => absurd hacceptable h⟩, ?_⟩
    · rintro ⟨filters, hfilters⟩
      cases hfilters
    · intro filters hfilters
      cases hfilters
  | ok filters =>
    rw [hread] at h
    refine ⟨⟨fun _ => h.1, fun _ => ⟨filters, rfl⟩⟩, ?_⟩
    intro filters' hfilters
    obtain rfl := Except.ok.inj hfilters
    exact h.2

end Filter

end AnyEngine

namespace Filter

/-- Of working age, or with a name that begins with Ann, and without remarks. -/
def workingAgeOrAnn : Json :=
  .object
    [("$or", .array
      [.object [("age", .object [("$gte", .ofNat 18), ("$lt", .ofNat 65)])],
        .object [("name", .object [("$regex", .string "^Ann")])]]),
      ("remarks", .object [])]

theorem ofJson_workingAgeOrAnn :
    ∃ filters, ofJson workingAgeOrAnn = .ok filters ∧ Acceptable workingAgeOrAnn ∧
      Meets (.map [("age", .int 30), ("remarks", .map [])]) workingAgeOrAnn ∧
      Meets (.map [("name", .string "Anna"), ("remarks", .map [])]) workingAgeOrAnn ∧
      ¬ Meets (.map [("age", .int 70), ("name", .string "Joanna"), ("remarks", .map [])])
        workingAgeOrAnn := by
  have hread : ofJson workingAgeOrAnn = .ok
      [.any [.all [.condition ⟨"age", .gte, .int 18⟩, .condition ⟨"age", .lt, .int 65⟩],
          .condition ⟨"name", .regex, .string "^Ann"⟩],
        .condition ⟨"remarks", .eq, .map []⟩] := by
    rfl
  have hmeets := (ofJson_correct workingAgeOrAnn).2 _ hread
  refine ⟨_, hread, (ofJson_correct workingAgeOrAnn).1.mp ⟨_, hread⟩, ?_, ?_, ?_⟩
  · exact (hmeets _).mp (by decide +kernel)
  · exact (hmeets _).mp (by decide +kernel)
  · exact fun h => absurd ((hmeets _).mpr h) (by decide +kernel)

end Filter

end PropertyGraph
