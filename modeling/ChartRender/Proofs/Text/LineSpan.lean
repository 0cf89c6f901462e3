import ChartRender.Proofs.Text.Lines
import Mathlib
/-!
# What the span of a line covers

There is a span for each number of a line and for no other, and it lies within the source text. It
covers the bytes of the line if every line end before it is a single line feed. Each line end of two
characters moves it one byte to the front, so that it starts in what stands before the line and covers
a line feed, as long as the line has that many bytes (`Text.lineSpan_covers_iff`).

Key definitions: `Text.Span.covered`.
Key theorems: `Text.lineSpan_eq_none_iff`, `Text.extract_between`, `Text.lineSpan_covers_iff`.
-/

namespace ChartRender.Text

/-- The bytes of a source text that a span covers. -/
def Span.covered (span : Span) (source : String) : ByteArray :=
  source.toUTF8.extract span.offset (span.offset + span.length)

/-! ### Which lines have a span -/

theorem spanFrom_eq_none_iff : ∀ {lines : List (List Char)} {offset number : Nat},
    spanFrom offset lines number = none ↔ number = 0 ∨ lines.length < number
  | [], offset, number => by
    rw [spanFrom]
    exact iff_of_true rfl (Nat.eq_zero_or_pos number)
  | line :: rest, offset, 0 => by simp [spanFrom]
  | line :: rest, offset, 1 => by simp [spanFrom]
  | line :: rest, offset, number + 2 => by
    have ih : spanFrom (offset + byteLength line + 1) rest (number + 1) = none ↔
        number + 1 = 0 ∨ rest.length < number + 1 := spanFrom_eq_none_iff
    rw [spanFrom, ih, List.length_cons]
    omega

/-! ### One line for each number -/

section
variable {cs before before' line line' after after' : List Char} {number : Nat}

/-- Of two fronts of a text with as many line feeds, both of which end with one, neither is longer. -/
theorem IsLine.before_le (h : IsLine cs number before line after)
    (h' : IsLine cs number before' line' after') (hlen : before.length ≤ before'.length) :
    before = before' := by
  have hb : before <+: cs := ⟨_, h.split.symm⟩
  have hb' : before' <+: cs := ⟨_, h'.split.symm⟩
  obtain ⟨between, rfl⟩ := List.prefix_of_prefix_length_le hb hb' hlen
  have hcount : between.count '\n' = 0 := by
    have := h.number_eq.symm.trans h'.number_eq
    rw [List.count_append] at this
    omega
  cases hl : between.getLast? with
  | none => rw [List.getLast?_eq_none_iff.mp hl, List.append_nil]
  | some c =>
    have hc : c = '\n' := h'.starts c (by rw [List.getLast?_append, hl, Option.some_or])
    have hm := List.mem_of_getLast? hl
    exact absurd (hc ▸ hm) (List.count_eq_zero.mp hcount)

/-- Of two lines that start at the same place, neither is longer. -/
theorem IsLine.line_le (h : IsLine cs number before line after)
    (h' : IsLine cs number before line' after') (hlen : line.length ≤ line'.length) :
    line = line' := by
  have he : line ++ after = line' ++ after' := List.append_cancel_left (h.split.symm.trans h'.split)
  obtain ⟨more, rfl⟩ := List.prefix_of_prefix_length_le ⟨after, rfl⟩ ⟨after', he.symm⟩ hlen
  rw [List.append_assoc] at he
  have ha : after = more ++ after' := List.append_cancel_left he
  have hmore : '\n' ∉ more := fun hm => h'.within (List.mem_append_right _ hm)
  cases more with
  | nil => rw [List.append_nil]
  | cons c more =>
    rw [List.mem_cons, not_or] at hmore
    rcases h.ends with rfl | ⟨rest, rfl, -⟩ | ⟨rest, rfl⟩
    · cases ha
    · exact absurd (List.cons.inj ha).1 hmore.1
    · obtain ⟨rfl, hfeed⟩ := List.cons.inj ha
      cases more with
      | nil =>
        rcases h'.ends with rfl | ⟨rest, rfl, hreturn⟩ | ⟨rest, rfl⟩
        · cases hfeed
        · exact absurd List.getLast?_concat hreturn
        · cases hfeed
      | cons d more =>
        obtain ⟨rfl, -⟩ := List.cons.inj hfeed
        exact absurd List.mem_cons_self hmore.2

/-- **There is one line with a number.** -/
theorem IsLine.unique (h : IsLine cs number before line after)
    (h' : IsLine cs number before' line' after') :
    before = before' ∧ line = line' ∧ after = after' := by
  obtain rfl : before = before' := by
    rcases Nat.le_total before.length before'.length with hle | hle
    · exact h.before_le h' hle
    · exact (h'.before_le h hle).symm
  obtain rfl : line = line' := by
    rcases Nat.le_total line.length line'.length with hle | hle
    · exact h.line_le h' hle
    · exact (h'.line_le h hle).symm
  have hsplit := h.split.symm.trans h'.split
  exact ⟨rfl, rfl, List.append_cancel_left (List.append_cancel_left hsplit)⟩

end

/-! ### Bytes -/

theorem size_utf8Encode : ∀ cs : List Char, cs.utf8Encode.size = byteLength cs
  | [] => rfl
  | c :: cs => by
    rw [List.utf8Encode_cons, ByteArray.size_append, size_utf8Encode cs, List.utf8Encode_singleton,
      List.size_toByteArray, String.length_utf8EncodeChar, byteLength]

/-- What stands between two parts of a text is cut out by its place. -/
theorem extract_between (before line after : List Char) :
    (before ++ (line ++ after)).utf8Encode.extract (byteLength before)
      (byteLength before + byteLength line) = line.utf8Encode := by
  have hb := size_utf8Encode before
  have hl := size_utf8Encode line
  calc (before ++ (line ++ after)).utf8Encode.extract (byteLength before)
        (byteLength before + byteLength line)
      = (before.utf8Encode ++ (line ++ after).utf8Encode).extract (byteLength before + 0)
          (byteLength before + byteLength line) := by rw [List.utf8Encode_append, Nat.add_zero]
    _ = (line ++ after).utf8Encode.extract 0 (byteLength line) :=
        ByteArray.extract_append_size_add' hb.symm
    _ = (line.utf8Encode ++ after.utf8Encode).extract 0 (byteLength line) := by
        rw [List.utf8Encode_append]
    _ = line.utf8Encode := ByteArray.extract_append_eq_left hl.symm

/-- Of all characters only a line feed has the byte of a line feed in it. -/
theorem feed_notMem_utf8EncodeChar {c : Char} (hc : c ≠ '\n') : 10 ∉ String.utf8EncodeChar c := by
  have hv : c.val.toNat ≠ 10 := fun h => hc (Char.ext (UInt32.toNat_inj.mp h))
  have hbyte (n : Nat) : (10 : UInt8) = UInt8.ofNat n ↔ 10 = n % 256 := by
    rw [← UInt8.toNat_inj, UInt8.toNat_ofNat']
    rfl
  unfold String.utf8EncodeChar
  simp only
  split_ifs <;> simp only [List.mem_cons, List.not_mem_nil, or_false, hbyte] <;> omega

/-- Bytes that reach over the end of a line are not those of a line. -/
theorem extract_ne_of_feed {front rest line : List Char} {start stop : Nat} (h : '\n' ∉ line)
    (hstart : start ≤ byteLength front) (hstop : byteLength front < stop) :
    (front ++ '\n' :: rest).utf8Encode.extract start stop ≠ line.utf8Encode := by
  intro he
  have hfeed : (front ++ '\n' :: rest).utf8Encode.extract (byteLength front)
      (byteLength front + 1) = ['\n'].utf8Encode := extract_between front ['\n'] rest
  rw [ByteArray.extract_eq_extract_append_extract (byteLength front) hstart hstop.le,
    ByteArray.extract_eq_extract_append_extract (byteLength front + 1) (Nat.le_succ _) hstop,
    hfeed] at he
  have hbyte : 10 ∈ ['\n'].utf8Encode.data.toList := by decide
  have hm : 10 ∈ line.utf8Encode.data.toList := by
    rw [← he, ByteArray.data_append, ByteArray.data_append, Array.toList_append,
      Array.toList_append]
    exact List.mem_append_right _ (List.mem_append_left _ hbyte)
  rw [List.utf8Encode, List.toList_data_toByteArray, List.mem_flatMap] at hm
  obtain ⟨c, hc, hm⟩ := hm
  exact feed_notMem_utf8EncodeChar (fun hn => h (hn ▸ hc)) hm

/-! ### The line under a span -/

theorem covered_eq {source : String} {span : Span} : span.covered source =
    source.toList.utf8Encode.extract span.offset (span.offset + span.length) := by
  rw [String.utf8Encode_toList]
  rfl

/-- Behind the start of a text a line starts after a line feed. -/
theorem IsLine.exists_front {cs before line after : List Char} {number : Nat}
    (h : IsLine cs number before line after) (hne : before ≠ []) :
    ∃ front, before = front ++ ['\n'] := by
  have hlast := h.starts _ (List.getLast?_eq_some_getLast hne)
  refine ⟨before.dropLast, ?_⟩
  rw [← hlast, List.dropLast_append_getLast]

/-- **The span of a line covers the bytes of the line exactly if no longer line end comes before it**,
or the line is shorter than there are such line ends. There is a span for the number of each line and
no other, with the length of the line, within the source text, and as many bytes too far to the front
as longer line ends come before the line. -/
theorem lineSpan_covers_iff (source : String) (number : Nat) :
    (lineSpan source number = none ↔ number = 0 ∨ (lines source).length < number) ∧
    ∀ span, lineSpan source number = some span → ∃ before line after,
      IsLine source.toList number before line after ∧ (lines source)[number - 1]? = some line ∧
      span.length = byteLength line ∧ span.offset + longLineEnds before = byteLength before ∧
      span.offset + span.length ≤ source.utf8ByteSize ∧
      (longLineEnds before ≤ byteLength line →
        (span.covered source = (String.ofList line).toUTF8 ↔ longLineEnds before = 0)) := by
  refine ⟨spanFrom_eq_none_iff, fun span h => ?_⟩
  obtain ⟨before, line, after, hl, hline, hlength, hoffset⟩ := spanFrom_marks h
  rw [Nat.zero_add] at hoffset
  have hsize : source.utf8ByteSize = byteLength before + (byteLength line + byteLength after) := by
    rw [← String.size_toByteArray, ← String.utf8Encode_toList, size_utf8Encode, hl.split,
      byteLength_append, byteLength_append]
  refine ⟨before, line, after, hl, hline, hlength, hoffset, by omega, fun hshort => ?_⟩
  rw [covered_eq, String.toUTF8_eq_toByteArray, String.toByteArray_ofList, hl.split]
  constructor
  · intro he
    by_contra hne
    obtain ⟨front, hfront⟩ := hl.exists_front (fun hb => hne (by rw [hb]; rfl))
    have hbefore : byteLength before = byteLength front + 1 := by
      rw [hfront, byteLength_append]
      rfl
    rw [hfront, List.append_assoc] at he
    exact extract_ne_of_feed hl.within (by omega) (by omega) he
  · intro hzero
    rw [hlength, show span.offset = byteLength before by omega]
    exact extract_between before line after

/-- Behind a longer line end the span of a line starts one byte too early and does not cover it. -/
theorem lineSpan_covers_iff_config :
    let source := "a: 1\nß: 2\r\nc"
    IsLine source.toList 3 "a: 1\nß: 2\r\n".toList ['c'] [] ∧
      lineSpan source 3 = some ⟨11, 1⟩ ∧ byteLength "a: 1\nß: 2\r\n".toList = 11 + 1 ∧
      Span.covered ⟨11, 1⟩ source ≠ (String.ofList ['c']).toUTF8 := by
  intro source
  have hc : IsLine source.toList 3 "a: 1\nß: 2\r\n".toList ['c'] [] :=
    ⟨by decide, by decide, by simp, by decide, .inl rfl⟩
  have hspan : lineSpan source 3 = some ⟨11, 1⟩ := by decide
  obtain ⟨before, line, after, hl, -, -, hoffset, -, hcovered⟩ :=
    (lineSpan_covers_iff source 3).2 _ hspan
  obtain ⟨rfl, rfl, rfl⟩ := hl.unique hc
  refine ⟨hc, hspan, hoffset.symm, fun he => ?_⟩
  exact absurd ((hcovered (by decide)).mp he) (by decide)

/-- The span of a line does not always cover it: behind one longer line end it starts in that. -/
theorem lineSpan_moved :
    let source := "a: 1\r\nb: 2"
    (lines source)[1]? = some "b: 2".toList ∧ lineSpan source 2 = some ⟨5, 4⟩ ∧
      Span.covered ⟨5, 4⟩ source = "\nb: ".toUTF8 ∧ "\nb: ".toUTF8 ≠ "b: 2".toUTF8 := by
  decide

end ChartRender.Text
