import ChartRender.Proofs.Binary64.Cast
import ChartRender.Proofs.Json.Numeral
import ChartRender.Proofs.TypeName
import ChartRender.Template.Exchange
/-!
# Integers in configuration data

An integer of configuration data is decoded as the nearest number, for decoded numbers are all
floating-point. Up to `2 ^ 53` that is the integer itself, and whoever asks for it gets it: it passes
for an integer, is asserted to be one, enters a template as one, and is written with the same digits
again (`Values.exists_isRecovered`). It does not matter how the integer was spelled, with a point or
an exponent, and zero may have a sign.

Key definitions: `Values.IsRecovered`.
Key theorems: `Values.isRecovered_toInt64`, `Values.exists_isRecovered`.
-/

namespace ChartRender.Values

open Binary64 Template

/-- The integer `z` of a JSON text is recovered from the number `x` that the text is decoded as: as the
64-bit integer `i`, as that of a template, and as its digits. -/
structure IsRecovered (text : String) (z : ℤ) (x : Binary64) (i : Int64) : Prop where
  decoded : (Json.parse? text).map Json.toValue = some (.number x)
  integral : (Value.number x).isIntegralNumber = true
  asserted : ∀ t : TypeName, t.isInteger = true → t.assert (.number x) = .ok (.int i)
  same : i.toInt = z
  entered : Datum.ofValue (.number x) = .int z
  written : (Value.int i).toJson = toString z

/-- A number that is a 64-bit integer enters a template as that integer. -/
theorem ofNumber_of_isIntegral {x : Binary64} (h : x.isIntegral = true)
    (hl : -2 ^ 63 ≤ x.truncate) (hr : x.truncate < 2 ^ 63) : Datum.ofNumber x = .int x.truncate := by
  have hsigned : Width.isSigned 64 x.truncate = true := by
    rw [Width.isSigned, decide_eq_true_eq]
    exact ⟨hl, hr⟩
  have hinteger : x.toInt64? = some (.ofInt x.truncate) := by
    rw [toInt64?, h, hsigned]
    rfl
  rw [Datum.ofNumber, hinteger]
  exact congrArg Datum.int (Int64.toInt_ofInt_of_le hl hr)

/-- **What is decoded as an integer up to `2 ^ 53`, or as negative zero, is recovered.** -/
theorem isRecovered_toInt64 {text : String} {z : ℤ} {x : Binary64} (hz : z.natAbs ≤ 2 ^ 53)
    (hdecoded : (Json.parse? text).map Json.toValue = some (.number x))
    (hx : x.dropZeroSign = ofInt z) : IsRecovered text z x x.toInt64 := by
  have htruncate : x.truncate = z := by
    rw [← truncate_dropZeroSign, hx]
    exact truncate_ofInt hz
  have hintegral : x.isIntegral = true := by
    rw [← isIntegral_dropZeroSign, hx]
    exact isIntegral_ofInt (by omega)
  have hl : -2 ^ 63 ≤ x.truncate := by omega
  have hr : x.truncate < 2 ^ 63 := by omega
  have hsame : x.toInt64.toInt = z := (toInt_toInt64_of_mem hl hr).trans htruncate
  exact
    { decoded := hdecoded
      integral := hintegral
      asserted := fun t ht => TypeName.assert_number ht hintegral
      same := hsame
      entered := by rw [Datum.ofValue, ofNumber_of_isIntegral hintegral hl hr, htruncate]
      written := by rw [Value.toJson, hsame] }

/-- **Integers up to `2 ^ 53` are recovered exactly** from configuration data, whether they are spelled
as integers or as other numerals of the same value. All spellings of zero are written `0` again. The
other numerals may have any number of digits, and are read with correct rounding (`Json.number?`). -/
theorem exists_isRecovered {z : ℤ} (hz : z.natAbs ≤ 2 ^ 53) :
    (∃ x i, IsRecovered (toString z) z x i) ∧
    ∀ (text : String) (n : Decimal.Numeral), Json.IsNumeral n text.toList → n.value = z →
      ∃ x i, IsRecovered text z x i := by
  have hall : ∀ (text : String) (n : Decimal.Numeral), Json.IsNumeral n text.toList → n.value = z →
      ∃ x i, IsRecovered text z x i := by
    intro text n htext hvalue
    have hx := Decimal.Numeral.dropZeroSign_toBinary64 hvalue
    have hfinite : n.toBinary64.isFinite = true := by
      rw [← isFinite_dropZeroSign, hx]
      exact isFinite_ofInt (by omega)
    exact ⟨_, _, isRecovered_toInt64 hz (htext.parse? hfinite) hx⟩
  exact ⟨hall _ _ (Json.isNumeral_toString z) (Decimal.Numeral.value_int z), hall⟩

/-- The least of them has its exponent, and zero its sign, and both are recovered. -/
theorem exists_isRecovered_ends :
    (∃ x i, IsRecovered "-9007199254740.992E3" (-9007199254740992) x i) ∧
    ∃ x i, IsRecovered "-0.0" 0 x i := by
  have hleast : Json.IsNumeral ⟨true, "9007199254740".toList, "992".toList, 3⟩
      "-9007199254740.992E3".toList :=
    { whole := Decimal.isWhole_toDigits 9007199254740
      fraction := by simp
      eq := ⟨_, @Decimal.IsExponent.some 'E' [] ['3'] (by simp) (by simp) (by simp) (by simp), rfl⟩ }
  have hzero : Json.IsNumeral ⟨true, ['0'], ['0'], 0⟩ "-0.0".toList :=
    { whole := Decimal.isWhole_toDigits 0
      fraction := by simp
      eq := ⟨_, .none, rfl⟩ }
  exact ⟨(exists_isRecovered (by decide)).2 _ _ hleast (by decide +kernel),
    (exists_isRecovered (by decide)).2 _ _ hzero (by decide +kernel)⟩

end ChartRender.Values
