import Mathlib.Data.String.Basic
/-!
# The order of texts is that of their bytes

Texts are compared character by character. File systems compare the bytes of names instead, and that
comes to the same: a character of a greater number has a greater leading byte, or as many bytes of
which the first that differs is greater (`Text.utf8EncodeChar_append_lt`).

Key definitions: `Text.bytes`.
Key theorems: `Text.utf8EncodeChar_append_lt`, `Text.lt_iff_bytes_lt`.
-/

namespace ChartRender.Text

open String (utf8EncodeChar)

/-- The bytes of a text. -/
def bytes (s : String) : List UInt8 := s.toUTF8.data.toList

theorem bytes_eq_flatMap (s : String) : bytes s = s.toList.flatMap utf8EncodeChar := by
  rw [bytes, String.toUTF8_eq_toByteArray, ← String.utf8Encode_toList, List.utf8Encode,
    List.toList_data_toByteArray]

theorem bytes_injective : Function.Injective bytes := fun _ _ h =>
  String.toByteArray_inj.mp (ByteArray.ext (Array.toList_inj.mp h))

/-! ### Bytes of a character -/

section
variable {a b : Nat} (ha : a < 256) (hb : b < 256)
include ha hb

theorem ofNat_lt_ofNat_iff : UInt8.ofNat a < UInt8.ofNat b ↔ a < b := by
  rw [UInt8.lt_iff_toNat_lt, UInt8.toNat_ofNat_of_lt' ha, UInt8.toNat_ofNat_of_lt' hb]

theorem ofNat_eq_ofNat_iff : UInt8.ofNat a = UInt8.ofNat b ↔ a = b := by
  rw [← UInt8.toNat_inj, UInt8.toNat_ofNat_of_lt' ha, UInt8.toNat_ofNat_of_lt' hb]

end

/-- Of two naturals in base 64 the smaller one is smaller without the last digit, or in that digit. -/
theorem div_lt_or_mod_lt {v w : Nat} (h : v < w) :
    v / 64 < w / 64 ∨ v / 64 = w / 64 ∧ v % 64 < w % 64 := by
  omega

/-- **The bytes of a greater character are greater**, whatever follows. -/
theorem utf8EncodeChar_append_lt {c d : Char} (h : c < d) (xs ys : List UInt8) :
    utf8EncodeChar c ++ xs < utf8EncodeChar d ++ ys := by
  have hlt : c.val.toNat < d.val.toNat := h
  have hmax : d.val.toNat < 0x110000 := by
    rcases d.valid with h | h
    · exact h.trans (by decide)
    · exact h.2
  have hsquare (n : Nat) : n / 4096 = n / 64 / 64 := (Nat.div_div_eq_div_mul n 64 64).symm
  have hcube (n : Nat) : n / 262144 = n / 64 / 64 / 64 := by
    rw [← hsquare, Nat.div_div_eq_div_mul]
  unfold utf8EncodeChar
  generalize c.val.toNat = v at *
  generalize d.val.toNat = w at *
  simp only [hsquare, hcube]
  -- the greater character has no fewer bytes, and if it has more, a greater leading one
  split_ifs <;> first | omega | skip
  all_goals
    simp (disch := omega) only [List.cons_append, List.nil_append, List.cons_lt_cons_iff,
      ofNat_lt_ofNat_iff, ofNat_eq_ofNat_iff]
    rcases div_lt_or_mod_lt hlt with h | ⟨h, -⟩
    · rcases div_lt_or_mod_lt h with h | ⟨h, -⟩
      · omega
      · omega
    · omega

/-! ### Bytes of a text -/

theorem flatMap_utf8EncodeChar_lt : ∀ {cs ds : List Char}, cs < ds →
    cs.flatMap utf8EncodeChar < ds.flatMap utf8EncodeChar
  | _, [], h => absurd h (List.not_lt_nil _)
  | [], d :: ds, _ => by
    rw [List.flatMap_nil, List.flatMap_cons]
    obtain ⟨b, bs, hb⟩ := List.exists_cons_of_ne_nil (String.utf8EncodeChar_ne_nil (c := d))
    rw [hb]
    exact List.nil_lt_cons b _
  | c :: cs, d :: ds, h => by
    rw [List.flatMap_cons, List.flatMap_cons]
    rcases List.cons_lt_cons_iff.mp h with hlt | ⟨rfl, hlt⟩
    · exact utf8EncodeChar_append_lt hlt _ _
    · exact List.Lex.append_left _ (flatMap_utf8EncodeChar_lt hlt) _

/-- **Texts stand in the order of their bytes.** -/
theorem lt_iff_bytes_lt {s t : String} : s < t ↔ bytes s < bytes t := by
  rw [bytes_eq_flatMap, bytes_eq_flatMap, String.lt_iff_toList_lt]
  constructor
  · exact flatMap_utf8EncodeChar_lt
  · intro h
    rcases lt_trichotomy s.toList t.toList with hlt | he | hgt
    · exact hlt
    · rw [he] at h
      exact absurd h (List.lt_irrefl _)
    · exact absurd (flatMap_utf8EncodeChar_lt hgt) (List.lt_asymm h)

end ChartRender.Text
