import ChartRender.Proofs.Quantity.Reading
import ChartRender.Proofs.Text.LineSpan
/-!
# Where a quantity is split

The unit of a quantity is the longest run of letters at its end. This leaves one place for the cut: what
stands in front of it has to be empty or to end with something else (`Quantity.splitChars_eq_iff`).

A text is stored as bytes and can only be cut between two characters. Where the unit starts is found
by going through the characters from the last one to the front, each with its place in the bytes, for
as long as they are letters; the place of the last one met is taken, or the end of the text if there
is none (`Quantity.unitPlace`). Only characters in front of the unit can take several bytes, and its
place counts each of them as a whole. So the text can be cut there, into the mantissa and the unit
(`Quantity.IsSplit.cutAt?_unitPlace`).

Key definitions: `Text.placed`, `Text.cutAt?`, `Quantity.IsSplit`, `Quantity.unitPlace`.
Key theorems: `Text.cutAt?_eq_some_iff`, `Quantity.splitChars_eq_iff`,
`Quantity.IsSplit.cutAt?_unitPlace`, `Quantity.split_longest_letters`.
-/

namespace ChartRender

/-! ### Places in the bytes of a text -/

namespace Text

/-- Characters, each with its place in the bytes of a text that has the first of them at `start`. -/
def placed (start : Nat) : List Char → List (Nat × Char)
  | [] => []
  | c :: cs => (start, c) :: placed (start + c.utf8Size) cs

/-- Cuts a text at a place in its bytes. A place within a character or behind the end is refused. -/
def cutAt? (text : String) (place : Nat) : Option (String × String) :=
  if h : String.Pos.Raw.IsValid text ⟨place⟩ then
    let p := text.pos ⟨place⟩ h
    some ((text.sliceTo p).copy, (text.sliceFrom p).copy)
  else
    none

theorem placed_append (cs ds : List Char) (start : Nat) :
    placed start (cs ++ ds) = placed start cs ++ placed (start + byteLength cs) ds := by
  induction cs generalizing start with
  | nil => rfl
  | cons c cs ih =>
    rw [List.cons_append, placed, placed, ih, byteLength, Nat.add_assoc, List.cons_append]

theorem map_snd_placed (cs : List Char) (start : Nat) : (placed start cs).map Prod.snd = cs := by
  induction cs generalizing start with
  | nil => rfl
  | cons c cs ih => rw [placed, List.map_cons, ih]

theorem utf8ByteSize_eq_byteLength (text : String) :
    text.utf8ByteSize = byteLength text.toList := by
  rw [← size_utf8Encode, String.utf8Encode_toList, String.size_toByteArray]

theorem isValid_utf8ByteSize (front back : String) :
    String.Pos.Raw.IsValid (front ++ back) ⟨front.utf8ByteSize⟩ :=
  String.Pos.Raw.isValid_iff_exists_append.mpr ⟨front, back, rfl, rfl⟩

/-- **A text can be cut behind each text that it starts with**, and nowhere else. -/
theorem cutAt?_eq_some_iff {text front back : String} {place : Nat} :
    cutAt? text place = some (front, back) ↔ front ++ back = text ∧ place = front.utf8ByteSize := by
  unfold cutAt?
  constructor
  · intro h
    split_ifs at h with hvalid
    have hsplits := (text.pos ⟨place⟩ hvalid).splits
    obtain ⟨rfl, rfl⟩ := Prod.mk.inj (Option.some.inj h)
    exact ⟨hsplits.eq_append.symm, congrArg String.Pos.Raw.byteIdx hsplits.offset_eq_rawEndPos⟩
  · rintro ⟨rfl, rfl⟩
    have hvalid := isValid_utf8ByteSize front back
    have hsplits : ((front ++ back).pos _ hvalid).Splits front back := ⟨rfl, rfl⟩
    obtain ⟨hfront, hback⟩ := (String.Pos.splits _).eq hsplits
    exact (dif_pos hvalid).trans (congrArg some (Prod.ext hfront hback))

end Text

namespace Quantity

/-! ### The longest run of letters at the end -/

/-- A letter from a to z, small or capital. -/
def IsLetter (c : Char) : Prop := 'a' ≤ c ∧ c ≤ 'z' ∨ 'A' ≤ c ∧ c ≤ 'Z'

/-- Two parts of a quantity of which the second has letters only, and all that there are at the end:
the first is empty or ends with a character that is no letter. -/
structure IsSplit (quantity mantissa unit : String) : Prop where
  append_eq : mantissa ++ unit = quantity
  letters : ∀ c ∈ unit.toList, IsLetter c
  longest : ∀ c, mantissa.toList.getLast? = some c → ¬ IsLetter c

theorem isAlpha_iff {c : Char} : c.isAlpha = true ↔ IsLetter c := by
  simp only [Char.isAlpha, Char.isUpper, Char.isLower, Bool.or_eq_true, Bool.and_eq_true,
    decide_eq_true_eq]
  exact Or.comm

theorem isAlpha_eq_false_iff {c : Char} : c.isAlpha = false ↔ ¬ IsLetter c := by
  rw [← isAlpha_iff, Bool.not_eq_true]

/-- **A text is split in one way**: before the letters at its end, with no letter in front of them. -/
theorem splitChars_eq_iff {cs front letters : List Char} :
    splitChars cs = (front, letters) ↔ front ++ letters = cs ∧ (∀ c ∈ letters, c.isAlpha = true) ∧
      ∀ c, front.getLast? = some c → c.isAlpha = false := by
  constructor
  · intro h
    rw [splitChars, List.span_eq_takeWhile_dropWhile] at h
    obtain ⟨rfl, rfl⟩ := Prod.mk.inj h
    refine ⟨?_, fun c hc => ?_, fun c hc => ?_⟩
    · rw [← List.reverse_append, List.takeWhile_append_dropWhile, List.reverse_reverse]
    · exact List.mem_takeWhile_imp (List.mem_reverse.mp hc)
    · rw [List.getLast?_reverse] at hc
      have hstop := List.head?_dropWhile_not Char.isAlpha cs.reverse
      rwa [hc] at hstop
  · rintro ⟨rfl, hl, hf⟩
    exact splitChars_append hf hl

theorem split_eq_iff {quantity mantissa unit : String} :
    split quantity = (mantissa, unit) ↔ IsSplit quantity mantissa unit := by
  have hchars : split quantity = (mantissa, unit) ↔
      splitChars quantity.toList = (mantissa.toList, unit.toList) := by
    rw [split, Prod.mk.injEq, Prod.ext_iff, ← String.toList_inj, ← String.toList_inj,
      String.toList_ofList, String.toList_ofList]
  rw [hchars, splitChars_eq_iff, ← String.toList_append, String.toList_inj]
  simp only [isAlpha_iff, isAlpha_eq_false_iff]
  constructor
  · rintro ⟨happend, hl, hf⟩
    exact ⟨happend, hl, hf⟩
  · intro h
    exact ⟨h.append_eq, h.letters, h.longest⟩

theorem isSplit_split (quantity : String) :
    IsSplit quantity (split quantity).1 (split quantity).2 :=
  split_eq_iff.mp rfl

/-- **The unit is the longest run**: all letters at the end of a quantity belong to it. -/
theorem IsSplit.isSuffix {quantity mantissa unit : String} (h : IsSplit quantity mantissa unit)
    {letters : List Char} (hs : letters <:+ quantity.toList) (hl : ∀ c ∈ letters, IsLetter c) :
    letters <:+ unit.toList := by
  have happend : mantissa.toList ++ unit.toList = quantity.toList := by
    rw [← String.toList_append, h.append_eq]
  rcases List.suffix_or_suffix_of_suffix hs ⟨_, happend⟩ with hle | ⟨more, rfl⟩
  · exact hle
  · -- more letters in front of the unit would be the last ones of the mantissa
    obtain ⟨front, hfront⟩ := hs
    rw [← happend, ← List.append_assoc] at hfront
    have hmantissa : front ++ more = mantissa.toList := List.append_cancel_right hfront
    cases hlast : more.getLast? with
    | none =>
      obtain rfl := List.getLast?_eq_none_iff.mp hlast
      exact List.suffix_rfl
    | some c =>
      have hend : mantissa.toList.getLast? = some c := by
        rw [← hmantissa, List.getLast?_append, hlast, Option.some_or]
      have hm : c ∈ more ++ unit.toList := List.mem_append_left _ (List.mem_of_getLast? hlast)
      exact absurd (hl c hm) (h.longest c hend)

/-! ### The place of the unit -/

/-- Where the unit of a quantity starts in its bytes: the place of the last letter that is met on the
way from the end to the front, or the end if there is none. -/
def unitPlace (quantity : String) : Nat :=
  let letters := (Text.placed 0 quantity.toList).reverse.takeWhile fun p => p.2.isAlpha
  (letters.getLast?.map Prod.fst).getD quantity.utf8ByteSize

section
variable {quantity mantissa unit : String} (h : IsSplit quantity mantissa unit)
include h

theorem IsSplit.placed_eq : Text.placed 0 quantity.toList =
    Text.placed 0 mantissa.toList ++ Text.placed mantissa.utf8ByteSize unit.toList := by
  rw [← h.append_eq, String.toList_append, Text.placed_append, Nat.zero_add,
    Text.utf8ByteSize_eq_byteLength]

/-- On the way from the end to the front the letters of the unit are met, and nothing else. -/
theorem IsSplit.takeWhile_placed :
    (Text.placed 0 quantity.toList).reverse.takeWhile (fun p => p.2.isAlpha) =
      (Text.placed mantissa.utf8ByteSize unit.toList).reverse := by
  have hletters : ∀ p ∈ (Text.placed mantissa.utf8ByteSize unit.toList).reverse,
      p.2.isAlpha = true := by
    intro p hp
    have hc := List.mem_map_of_mem (f := Prod.snd) (List.mem_reverse.mp hp)
    rw [Text.map_snd_placed] at hc
    exact isAlpha_iff.mpr (h.letters p.2 hc)
  have hstop : ∀ p, (Text.placed 0 mantissa.toList).reverse.head? = some p →
      p.2.isAlpha = false := by
    intro p hp
    have hc : ((Text.placed 0 mantissa.toList).map Prod.snd).getLast? = some p.2 := by
      rw [List.getLast?_map, ← List.head?_reverse, hp, Option.map_some]
    rw [Text.map_snd_placed] at hc
    exact isAlpha_eq_false_iff.mpr (h.longest p.2 hc)
  have hspan := Decimal.span_append hletters hstop
  rw [List.span_eq_takeWhile_dropWhile, ← List.reverse_append, ← h.placed_eq] at hspan
  exact (Prod.mk.inj hspan).1

/-- The unit starts behind all bytes of the mantissa. -/
theorem IsSplit.unitPlace_eq : unitPlace quantity = mantissa.utf8ByteSize := by
  unfold unitPlace
  simp only [h.takeWhile_placed, List.getLast?_reverse]
  cases hunit : unit.toList with
  | nil =>
    obtain rfl := String.toList_eq_nil_iff.mp hunit
    rw [← h.append_eq, String.append_empty]
    rfl
  | cons c cs => rfl

/-- **The place of the unit is one where the quantity can be cut**, into its mantissa and its unit. -/
theorem IsSplit.cutAt?_unitPlace :
    Text.cutAt? quantity (unitPlace quantity) = some (mantissa, unit) :=
  Text.cutAt?_eq_some_iff.mpr ⟨h.append_eq, h.unitPlace_eq⟩

theorem IsSplit.isValid_unitPlace : String.Pos.Raw.IsValid quantity ⟨unitPlace quantity⟩ := by
  rw [h.unitPlace_eq, ← h.append_eq]
  exact Text.isValid_utf8ByteSize mantissa unit

end

/-- **A quantity is split before the longest run of letters at its end.** The two parts make up the
quantity, the second has letters only, and the first is empty or ends with something else; no other
two parts are like that, and no longer run of letters is at the end. The place that is found for the
unit in the bytes of the quantity is between two characters, so that the cut there never fails, and it
gives these two parts. -/
theorem split_longest_letters (quantity : String) :
    IsSplit quantity (split quantity).1 (split quantity).2 ∧
    (∀ mantissa unit, IsSplit quantity mantissa unit → (mantissa, unit) = split quantity) ∧
    (∀ letters, letters <:+ quantity.toList → (∀ c ∈ letters, IsLetter c) →
      letters <:+ (split quantity).2.toList) ∧
    String.Pos.Raw.IsValid quantity ⟨unitPlace quantity⟩ ∧
    Text.cutAt? quantity (unitPlace quantity) = some (split quantity) := by
  have h := isSplit_split quantity
  exact ⟨h, fun mantissa unit hsplit => (split_eq_iff.mpr hsplit).symm,
    fun letters hs hl => h.isSuffix hs hl, h.isValid_unitPlace, h.cutAt?_unitPlace⟩

-- The character in front of the unit takes two bytes; there is no cut between them.
example : unitPlace "1½Gi" = 3 ∧ split "1½Gi" = ("1½", "Gi") ∧ Text.cutAt? "1½Gi" 2 = none := by
  decide +kernel

end Quantity
end ChartRender
