import ChartRender.Command.Quantity
import ChartRender.Proofs.Command.Run
import ChartRender.Proofs.Json.RoundTrip
import ChartRender.Proofs.Quantity.Reading
import ChartRender.Proofs.Text.Lines
import ChartRender.Proofs.Text.Split
/-!
# Quantities are printed all or none

Whether quantities are printed depends on how they are spelled and on nothing else: not on whether
they are converted, since what is well formed can be converted, and not on the form of the output. The
first text that is not well formed ends the command, and then nothing is printed. Otherwise there is
one entry for each text (`QuantityEntry.IsOf`), and what is printed is read back as these entries in
their order (`QuantityEntry.IsPrinted`), be it as lines with columns or as a JSON document.

Key definitions: `QuantityEntry.IsOf`, `QuantityEntry.IsPrinted`.
Key theorems: `QuantityEntry.isPrinted_lines`, `QuantityEntry.isPrinted_json`,
`Command.quantity_outcome`.
-/

namespace ChartRender

open Quantity (IsSpelled isWellFormed_iff)

namespace QuantityEntry

/-! ### Entries -/

/-- The entry of a text: the text, and its count if it was to be converted. -/
structure IsOf (checkOnly : Bool) (text : String) (e : QuantityEntry) : Prop where
  text_eq : e.text = text
  checked : checkOnly = true → e.count = none
  converted : checkOnly = false →
    ∃ count, Quantity.toInt64 (.string text) = .ok count ∧ e.count = some count

/-- **A quantity has an entry**: checking does not fail, and neither does converting. -/
theorem of_spelled (checkOnly : Bool) {text : String} (h : IsSpelled text) :
    ∃ e, of checkOnly text = .ok e ∧ IsOf checkOnly text e := by
  obtain ⟨count, hcount⟩ := h.exists_count
  have hvalid : Quantity.validate (.string text) = .ok (.string text) :=
    Quantity.validate_eq_ok_iff.mpr ⟨rfl, h⟩
  cases checkOnly with
  | true =>
    refine ⟨⟨text, none⟩, ?_, rfl, fun _ => rfl, nofun⟩
    rw [of, hvalid]
    rfl
  | false =>
    refine ⟨⟨text, some count⟩, ?_, rfl, nofun, fun _ => ⟨count, hcount, rfl⟩⟩
    simp only [of, hvalid, hcount, bind, Except.bind, pure, Except.pure, Bool.false_eq_true, if_false]

theorem spelled_of_isOf {checkOnly : Bool} {texts : List String} {entries : List QuantityEntry}
    (h : List.Forall₂ (IsOf checkOnly) texts entries) (hs : ∀ t ∈ texts, IsSpelled t) :
    ∀ e ∈ entries, IsSpelled e.text := by
  induction h with
  | nil => exact fun e he => absurd he List.not_mem_nil
  | cons hof _ ih =>
    rw [List.forall_mem_cons] at hs ⊢
    exact ⟨hof.text_eq ▸ hs.1, ih hs.2⟩

theorem of_unspelled (checkOnly : Bool) {text : String} (h : ¬ IsSpelled text) :
    of checkOnly text = .error (.quantityFormat text) := by
  rw [of, Quantity.validate_string, if_neg fun hw => h (isWellFormed_iff.mp hw)]
  rfl

theorem ofAll_spelled (checkOnly : Bool) : ∀ {texts : List String}, (∀ t ∈ texts, IsSpelled t) →
    ∃ entries, ofAll checkOnly texts = .ok entries ∧ List.Forall₂ (IsOf checkOnly) texts entries
  | [], _ => ⟨[], rfl, .nil⟩
  | text :: rest, h => by
    rw [List.forall_mem_cons] at h
    obtain ⟨e, he, hof⟩ := of_spelled checkOnly h.1
    obtain ⟨entries, hes, hofs⟩ := ofAll_spelled checkOnly h.2
    refine ⟨e :: entries, ?_, .cons hof hofs⟩
    rw [ofAll, he, hes]
    rfl

/-- The first text that is not well formed ends the conversion. -/
theorem ofAll_unspelled (checkOnly : Bool) {text : String} (back : List String)
    (h : ¬ IsSpelled text) : ∀ {front : List String}, (∀ t ∈ front, IsSpelled t) →
    ofAll checkOnly (front ++ text :: back) = .error (.quantityFormat text)
  | [], _ => by
    rw [List.nil_append, ofAll, of_unspelled checkOnly h]
    rfl
  | t :: front, hf => by
    rw [List.forall_mem_cons] at hf
    obtain ⟨e, he, -⟩ := of_spelled checkOnly hf.1
    rw [List.cons_append, ofAll, he, ofAll_unspelled checkOnly back h hf.2]
    rfl

/-! ### Reading what is printed -/

/-- The columns of an entry's line. -/
def columns (e : QuantityEntry) : List String :=
  e.text ::
    match e.count with
    | some (n, ok) => [toString n.toInt, if ok then "true" else "false"]
    | none => ["valid"]

/-- The document of an entry. -/
def document (e : QuantityEntry) : Json :=
  .object (("quantity", .string e.text) ::
    match e.count with
    | some (n, ok) => [("value", .number (.ofInt64 n)), ("ok", .bool ok)]
    | none => [])

/-- A printed text that is read as entries: as a JSON array of their documents, or as lines that are
cut into their columns. -/
def IsPrinted (json : Bool) (entries : List QuantityEntry) (printed : String) : Prop :=
  if json then Json.parse? printed = some (.array (entries.map document))
  else (Text.lines printed).map (Text.split '\t') = entries.map fun e => e.columns.map String.toList

theorem line_eq (e : QuantityEntry) : e.line = Text.join "\t" e.columns ++ "\n" := by
  obtain ⟨text, count⟩ := e
  cases count with
  | none => simp [line, columns, Text.join, String.append_assoc]
  | some count => simp [line, columns, Text.join, String.append_assoc]

/-- Neither a quantity nor what stands beside it has a tab or a line end in it. -/
theorem notMem_columns {e : QuantityEntry} (h : IsSpelled e.text) :
    ∀ s ∈ e.columns, '\t' ∉ s.toList ∧ '\n' ∉ s.toList ∧ '\r' ∉ s.toList := by
  have htext : '\t' ∉ e.text.toList ∧ '\n' ∉ e.text.toList ∧ '\r' ∉ e.text.toList := by
    refine ⟨?_, ?_, ?_⟩ <;> exact fun hc => absurd (h.chars _ hc) (by decide)
  unfold columns
  refine List.forall_mem_cons.mpr ⟨htext, ?_⟩
  cases e.count with
  | none => simp
  | some count =>
    obtain ⟨n, ok⟩ := count
    have hdigits : ∀ c ∈ (toString n.toInt).toList, c = '-' ∨ c.isDigit = true := by
      intro c hc
      rw [Decimal.Numeral.toList_toString_int, Decimal.withSign] at hc
      split_ifs at hc
      · exact (List.mem_cons.mp hc).imp_right (Decimal.isDigit_toDigits c)
      · exact Or.inr (Decimal.isDigit_toDigits c hc)
    refine List.forall_mem_cons.mpr ⟨?_, ?_⟩
    · refine ⟨?_, ?_, ?_⟩ <;> exact fun hc => absurd (hdigits _ hc) (by decide)
    · cases ok <;> simp

/-- **The lines of entries are cut into their columns.** -/
theorem isPrinted_lines {entries : List QuantityEntry} (h : ∀ e ∈ entries, IsSpelled e.text) :
    IsPrinted false entries (String.join (entries.map line)) := by
  have hlines : entries.map line =
      (entries.map fun e => Text.join "\t" e.columns).map (· ++ "\n") := by
    rw [List.map_map]
    exact List.map_congr_left fun e _ => line_eq e
  have hplain : ∀ s ∈ entries.map fun e => Text.join "\t" e.columns,
      '\n' ∉ s.toList ∧ '\r' ∉ s.toList := by
    refine List.forall_mem_map.mpr fun e he => ⟨fun hc => ?_, fun hc => ?_⟩
    · rcases Text.mem_join hc with hc | ⟨s, hs, hc⟩
      · exact absurd hc (by decide)
      · exact (notMem_columns (h e he) s hs).2.1 hc
    · rcases Text.mem_join hc with hc | ⟨s, hs, hc⟩
      · exact absurd hc (by decide)
      · exact (notMem_columns (h e he) s hs).2.2 hc
  rw [IsPrinted, if_neg Bool.false_ne_true, hlines, Text.lines_join hplain, List.map_map,
    List.map_map]
  refine List.map_congr_left fun e he => ?_
  exact Text.split_join '\t' (List.cons_ne_nil _ _) fun s hs => (notMem_columns (h e he) s hs).1

theorem toDocument_toValue (e : QuantityEntry) : e.toValue.toDocument = e.document := by
  obtain ⟨text, count⟩ := e
  cases count <;> rfl

theorem depth_toValue_le (e : QuantityEntry) : e.toValue.depth ≤ 1 := by
  obtain ⟨text, count⟩ := e
  cases count <;> simp [toValue, Value.depth, Value.depthFields]

/-- **The JSON text of entries is an array of their documents.** -/
theorem isPrinted_json (entries : List QuantityEntry) :
    IsPrinted true entries (Value.toIndentedJson 0 (.list (entries.map toValue)) ++ "\n") := by
  have hdepth : (Value.list (entries.map toValue)).depth ≤ 2 := by
    rw [Value.depth, Nat.add_le_add_iff_right, Value.depthAll_le_iff]
    exact List.forall_mem_map.mpr fun e _ => depth_toValue_le e
  have hblank : Json.IsBlank "\n".toList := by simp [Json.IsBlank, Json.isSpace]
  rw [IsPrinted, if_pos rfl, Value.parse?_toIndentedJson _ (hdepth.trans (by norm_num)) hblank,
    Value.toDocument, Value.toDocuments_eq_map, List.map_map]
  exact congrArg (some ∘ Json.array) (List.map_congr_left fun e _ => toDocument_toValue e)

end QuantityEntry

namespace Command

open QuantityEntry

/-- **Quantities are printed all or none.** The first text that is not well formed ends the command
with nothing printed, whatever the options are. If there is none, every text has its entry in what is
printed, and there is nothing else in it. -/
theorem quantity_outcome (texts : List String) (checkOnly json : Bool) (s : Session) :
    (∃ front text back, texts = front ++ text :: back ∧ (∀ t ∈ front, IsSpelled t) ∧
      ¬ IsSpelled text ∧
      runIn (quantity texts checkOnly json) s = (.error (.builtin (.quantityFormat text)), s) ∧
      (CommandError.builtin (.quantityFormat text)).exitStatus = 4) ∨
    (∀ t ∈ texts, IsSpelled t) ∧ ∃ entries printed,
      runIn (quantity texts checkOnly json) s = (.ok (), s.print printed) ∧
      List.Forall₂ (IsOf checkOnly) texts entries ∧ IsPrinted json entries printed := by
  cases hfind : texts.find? (fun t => !Quantity.isWellFormed t) with
  | some text =>
    refine Or.inl ?_
    obtain ⟨ht, front, back, rfl, hfront⟩ := List.find?_eq_some_iff_append.mp hfind
    have hf : ∀ t ∈ front, IsSpelled t := fun t hm =>
      isWellFormed_iff.mp (by simpa using hfront t hm)
    have hu : ¬ IsSpelled text := fun h => by
      rw [isWellFormed_iff.mpr h] at ht
      cases ht
    refine ⟨front, text, back, rfl, hf, hu, ?_, rfl⟩
    rw [quantity, ofAll_unspelled checkOnly back hu hf]
    exact runIn_bind_error rfl
  | none =>
    refine Or.inr ?_
    have hs : ∀ t ∈ texts, IsSpelled t := fun t hm =>
      isWellFormed_iff.mp (by simpa using List.find?_eq_none.mp hfind t hm)
    obtain ⟨entries, he, hof⟩ := ofAll_spelled checkOnly hs
    refine ⟨hs, entries, ?_⟩
    rw [quantity, he]
    cases json with
    | true => exact ⟨_, runIn_bind_ok (runIn_orFail_ok _ entries s), hof, isPrinted_json entries⟩
    | false =>
      exact ⟨_, runIn_bind_ok (runIn_orFail_ok _ entries s), hof,
        isPrinted_lines (spelled_of_isOf hof hs)⟩

end Command
end ChartRender
