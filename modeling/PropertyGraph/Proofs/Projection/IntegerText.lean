import PropertyGraph.Projection.FieldType
import PropertyGraph.Proofs.Numeric.NumberText

/-!
# Integers from texts

A text that writes no 64-bit integer is converted to one through the number that it denotes.  A
number is converted to an integer only if it is finite, and to null if it is not; but the conversion
of a text does not look whether its number is finite.  So the text of an infinite number gives the
least or the largest integer, and that of NaN gives zero (`FieldType.coerce_integer_text`).
-/

namespace PropertyGraph.FieldType

open NumberText

section Text

variable {s : String} {text : List Char}

theorem coerce_integer_string (htrim : Text.trim s.toList = text)
    (hint : Integer.int64? text = none) : coerce .integer (.string s)
      = ((Binary64.ofText? text).map fun x => Value.int x.toInt64).getD .null := by
  unfold coerce toInteger integerOfText
  dsimp only
  rw [htrim, hint]
  cases Binary64.ofText? text <;> rfl

theorem coerce_float_string (htrim : Text.trim s.toList = text) :
    coerce .float (.string s) = ((Binary64.ofText? text).map Value.float).getD .null := by
  unfold coerce toFloat
  dsimp only
  rw [htrim]
  cases Binary64.ofText? text <;> rfl

theorem coerce_integer_float_string (htrim : Text.trim s.toList = text) :
    coerce .integer (coerce .float (.string s)) = ((Binary64.ofText? text).map fun x =>
      if x.isFinite then Value.int x.toInt64 else .null).getD .null := by
  rw [coerce_float_string htrim]
  cases Binary64.ofText? text <;> rfl

/-- A text that denotes nothing gives null in both ways. -/
theorem coerce_of_denotes_nothing (htrim : Text.trim s.toList = text)
    (hint : Integer.int64? text = none) (hfinite : ¬ Signed DenotesFinite text)
    (hinfinity : ¬ Signed DenotesInfinity text) (hnan : ¬ Signed DenotesNaN text) :
    coerce .integer (.string s) = .null ∧
      coerce .integer (coerce .float (.string s)) = .null := by
  have hnone : Binary64.ofText? text = none := by
    refine Option.eq_none_iff_forall_ne_some.mpr fun x hx => ?_
    rcases Binary64.ofText?_cases hx with ⟨-, h⟩ | ⟨-, h⟩ | ⟨-, h⟩
    · exact hfinite h
    · exact hinfinity h
    · exact hnan h
  rw [coerce_integer_string htrim hint, coerce_integer_float_string htrim, hnone]
  exact ⟨rfl, rfl⟩

theorem coerce_of_denotesFinite (htrim : Text.trim s.toList = text)
    (hint : Integer.int64? text = none) (h : Signed DenotesFinite text) :
    ∃ n, coerce .integer (.string s) = .int n ∧
      coerce .integer (coerce .float (.string s)) = .int n := by
  obtain ⟨x, hx, hfinite⟩ := Binary64.ofText?_of_denotesFinite h
  refine ⟨x.toInt64, ?_, ?_⟩
  · rw [coerce_integer_string htrim hint, hx]
    rfl
  · rw [coerce_integer_float_string htrim, hx, Option.map_some, Option.getD_some, if_pos hfinite]

theorem coerce_of_denotesInfinity (htrim : Text.trim s.toList = text)
    (hint : Integer.int64? text = none) (h : Signed DenotesInfinity text) :
    coerce .integer (.string s)
        = .int (if text.head? = some '-' then Int64.minValue else Int64.maxValue) ∧
      coerce .integer (coerce .float (.string s)) = .null := by
  rw [coerce_integer_string htrim hint, coerce_integer_float_string htrim,
    Binary64.ofText?_of_denotesInfinity h]
  unfold Binary64.withSign
  split <;> exact ⟨rfl, rfl⟩

theorem coerce_of_denotesNaN (htrim : Text.trim s.toList = text)
    (hint : Integer.int64? text = none) (h : Signed DenotesNaN text) :
    coerce .integer (.string s) = .int 0 ∧
      coerce .integer (coerce .float (.string s)) = .null := by
  rw [coerce_integer_string htrim hint, coerce_integer_float_string htrim,
    Binary64.ofText?_of_denotesNaN h]
  unfold Binary64.withSign
  split <;> exact ⟨rfl, rfl⟩

/-- **Integers from texts.**  A text that writes no 64-bit integer is converted as its number is
unless it denotes infinity or NaN.  Then its number gives null, and the text an integer, so that null
is left for the texts that denote nothing. -/
theorem coerce_integer_text (htrim : Text.trim s.toList = text)
    (hint : Integer.int64? text = none) :
    (coerce .integer (.string s) = coerce .integer (coerce .float (.string s)) ↔
        ¬ Signed DenotesInfinity text ∧ ¬ Signed DenotesNaN text) ∧
      (Signed DenotesInfinity text → coerce .integer (.string s)
          = .int (if text.head? = some '-' then Int64.minValue else Int64.maxValue) ∧
        coerce .integer (coerce .float (.string s)) = .null) ∧
      (Signed DenotesNaN text → coerce .integer (.string s) = .int 0 ∧
        coerce .integer (coerce .float (.string s)) = .null) ∧
      (coerce .integer (.string s) = .null ↔ ¬ Signed DenotesFinite text ∧
        ¬ Signed DenotesInfinity text ∧ ¬ Signed DenotesNaN text) := by
  have hinfinity := coerce_of_denotesInfinity htrim hint
  have hnan := coerce_of_denotesNaN htrim hint
  refine ⟨⟨fun heq => ⟨fun h => ?_, fun h => ?_⟩, fun ⟨hinf, hnan⟩ => ?_⟩, hinfinity, hnan,
    fun hnull => ⟨fun h => ?_, fun h => ?_, fun h => ?_⟩, fun ⟨hfin, hinf, hnan⟩ => ?_⟩
  · cases (hinfinity h).1.symm.trans (heq.trans (hinfinity h).2)
  · cases (hnan h).1.symm.trans (heq.trans (hnan h).2)
  · by_cases hfin : Signed DenotesFinite text
    · obtain ⟨n, htext, hfloat⟩ := coerce_of_denotesFinite htrim hint hfin
      exact htext.trans hfloat.symm
    · obtain ⟨htext, hfloat⟩ := coerce_of_denotes_nothing htrim hint hfin hinf hnan
      exact htext.trans hfloat.symm
  · obtain ⟨n, htext, -⟩ := coerce_of_denotesFinite htrim hint h
    cases htext.symm.trans hnull
  · cases (hinfinity h).1.symm.trans hnull
  · cases (hnan h).1.symm.trans hnull
  · exact (coerce_of_denotes_nothing htrim hint hfin hinf hnan).1

end Text

theorem signed_denotesInfinity_large : Signed DenotesInfinity "-1e400".toList := by
  have hexponent : Exponent ['e', '4', '0', '0'] 400 :=
    .present (Or.inl rfl) (List.mem_cons_self : [] ∈ signs) (List.cons_ne_nil _ _)
      (List.all_eq_true.mp rfl)
  have hdecimal : Unsigned ['1', 'e', '4', '0', '0'] ⟨1, 400⟩ :=
    @Unsigned.whole ['1'] _ _ (List.cons_ne_nil _ _) (List.all_eq_true.mp rfl) hexponent
  have hvalue : Decimal.value ⟨1, 400⟩ = 10 ^ 400 := by
    rw [Decimal.value, Nat.cast_one, one_mul]
    rfl
  refine ⟨['-'], by decide, _, rfl, Or.inr ⟨_, hdecimal, ?_⟩⟩
  rw [hvalue]
  exact Binary64.overflowThreshold_lt_ten_pow.le

/-- The number lies below all finite ones: it gives null, and its text the least integer. -/
theorem coerce_integer_text_large :
    Text.trim " -1e400 ".toList = "-1e400".toList ∧ Integer.int64? "-1e400".toList = none ∧
      Signed DenotesInfinity "-1e400".toList ∧
      coerce .integer (.string " -1e400 ") = .int Int64.minValue ∧
      coerce .integer (coerce .float (.string " -1e400 ")) = .null := by
  have htrim : Text.trim " -1e400 ".toList = "-1e400".toList := by decide
  have hint : Integer.int64? "-1e400".toList = none := by decide
  obtain ⟨-, hinfinity, -, -⟩ := coerce_integer_text htrim hint
  exact ⟨htrim, hint, signed_denotesInfinity_large, hinfinity signed_denotesInfinity_large⟩

/-- A word for infinity writes no integer and gives the largest one. -/
theorem coerce_integer_word :
    Integer.int64? (Text.trim "inf".toList) = none ∧
      coerce .integer (.string "inf") = .int Int64.maxValue ∧
      coerce .integer (coerce .float (.string "inf")) = .null ∧
      coerce .integer (.string "inf") ≠ coerce .integer (coerce .float (.string "inf")) := by
  have htext : coerce .integer (.string "inf") = .int Int64.maxValue := by rfl
  have hfloat : coerce .integer (coerce .float (.string "inf")) = .null := by rfl
  refine ⟨by decide, htext, hfloat, ?_⟩
  rw [htext, hfloat]
  exact Value.noConfusion

/-- An integer beyond the bounds denotes a finite number. -/
example : coerce .integer (.string "9223372036854775808") = .int Int64.maxValue ∧
    coerce .integer (coerce .float (.string "9223372036854775808")) = .int Int64.maxValue :=
  ⟨rfl, rfl⟩

end PropertyGraph.FieldType
