import ChartRender.Json.Basic
import ChartRender.Proofs.Binary64.Integer
import ChartRender.Proofs.Decimal.Spelling
/-!
# Integers among JSON numbers

It makes no difference whether digits are read as an integer that is converted to a binary number, or
as a binary number at once: both are the nearest one (`JsonNumber.toBinary64_ofNumeral`).

Key theorems: `JsonNumber.toBinary64_of_ofDigits?`, `JsonNumber.toBinary64_ofNumeral`.
-/

namespace ChartRender.JsonNumber

open Binary64 Decimal.Numeral

/-- **An integer is the nearest number to its digits.** -/
theorem toBinary64_of_ofDigits? {negative : Bool} {digits : List Char} {m : JsonNumber}
    (h : ofDigits? negative digits = some m) :
    m.toBinary64 = Decimal.Numeral.toBinary64 ⟨negative, digits, [], 0⟩ := by
  rw [toBinary64_whole]
  unfold ofDigits? at h
  cases negative with
  | false =>
    simp only [Bool.false_eq_true, if_false] at h
    split_ifs at h with hn
    obtain rfl := Option.some.inj h
    rw [Width.isUnsigned, decide_eq_true_eq] at hn
    have hlt : Decimal.ofDigits digits < UInt64.size := Int.ofNat_lt.mp hn.2
    rw [JsonNumber.toBinary64, Int.toNat_natCast, UInt64.toNat_ofNat_of_lt' hlt]
    rfl
  | true =>
    simp only [if_true] at h
    split_ifs at h with hn
    obtain rfl := Option.some.inj h
    obtain ⟨hz, hn⟩ := hn
    rw [Width.isSigned, decide_eq_true_eq] at hn
    rw [JsonNumber.toBinary64, ofInt64, Int64.toInt_ofInt_of_le hn.1 hn.2, ofInt, Int.natAbs_neg,
      Int.natAbs_natCast, decide_eq_true (by omega)]

/-- **A number that is read is the nearest one to its numeral**, whether it is an integer or not. -/
theorem toBinary64_ofNumeral {plain : Bool} {n : Decimal.Numeral}
    (h : plain = true → n.fraction = [] ∧ n.exponent = 0) :
    (ofNumeral plain n).toBinary64 = n.toBinary64 := by
  unfold ofNumeral
  cases plain with
  | false => rfl
  | true =>
    obtain ⟨negative, whole, fraction, exponent⟩ := n
    obtain ⟨rfl, rfl⟩ := h rfl
    dsimp only
    rw [if_pos rfl]
    cases hd : ofDigits? negative whole with
    | none => rfl
    | some m => exact toBinary64_of_ofDigits? hd

/-- Integers are finite numbers. -/
theorem isFinite_unsigned (n : UInt64) : (unsigned n).toBinary64.isFinite = true :=
  isFinite_ofInt (by rw [Int.natAbs_natCast]; exact n.toNat_lt)

theorem isFinite_negative (i : Int64) : (negative i).toBinary64.isFinite = true :=
  isFinite_ofInt64 i

end ChartRender.JsonNumber
