import ChartRender.Proofs.Value.Canonical
import ChartRender.Template.Exchange
/-!
# The way into a template and back

A value that enters a template and is handed back to a builtin comes back as its canonical value:
integers are numbers then, keys are sorted, and the sign of zero is lost. No value is refused on the
way (`Datum.toValue_ofValue`).

Key definitions: `Entries.Reads`.
Key theorems: `Entries.reads_put`, `Datum.toValue_ofValue`.
-/

namespace ChartRender.Template

/-! ### Numbers -/

theorem fits_toInt (i : Int64) : Width.fits 64 i.toInt = true := by
  have hl := i.le_toInt
  have hr := i.toInt_lt
  rw [Width.fits, Width.isSigned, Bool.or_eq_true, decide_eq_true_eq]
  exact Or.inl ⟨hl, hr⟩

/-- An integer of a template is the number that is nearest to it. -/
theorem Datum.toValue_int (i : Int64) :
    (Datum.int i.toInt).toValue = .ok (.number (.ofInt64 i)) := by
  rw [Datum.toValue, if_pos (fits_toInt i), Binary64.ofInt64]

theorem Datum.toValue_ofNumber (x : Binary64) :
    (Datum.ofNumber x).toValue = .ok (Value.canonical (.number x)) := by
  unfold Datum.ofNumber
  cases h : x.toInt64? with
  | none =>
    simp only [Datum.toValue, Value.canonical, Binary64.dropZeroSign_of_toInt64?_none h]
  | some i =>
    obtain ⟨hx, hi⟩ := Binary64.toInt64?_eq_some h
    have hf : x.isFinite = true := by
      cases x with
      | nan => cases hx
      | signed s r => exact (Bool.and_eq_true _ _ ▸ hx).1
    change (Datum.int i.toInt).toValue = _
    rw [Datum.toValue_int, Binary64.ofInt64, hi, Binary64.ofInt_truncate hx, Value.canonical,
      if_pos hf]

/-! ### Entries -/

/-- Entries of texts that are read as fields, one after the other. -/
def Entries.Reads (entries : Entries) (fields : Fields) : Prop :=
  List.Forall₂ (fun e p => e.1 = Datum.ofText p.1 ∧ e.2.toValue = .ok p.2) entries fields

theorem Datum.order_ofText (a b : String) :
    (Datum.ofText a).order (Datum.ofText b) = compare a b := by
  rw [Datum.ofText, Datum.ofText, Datum.order]

/-- Texts as keys are put in the order of the texts. -/
theorem Entries.reads_put {key : String} {d : Datum} {v : Value} (hd : d.toValue = .ok v)
    {entries : Entries} {fields : Fields} (h : Entries.Reads entries fields) :
    Entries.Reads (entries.put (.ofText key) d) (Fields.putSorted fields key v) := by
  induction h with
  | nil => exact .cons ⟨rfl, hd⟩ .nil
  | @cons e p entries fields he hs ih =>
    obtain ⟨k, d'⟩ := e
    obtain ⟨l, w⟩ := p
    obtain ⟨rfl, hw⟩ := he
    rw [Entries.put, Fields.putSorted, Datum.order_ofText]
    rcases lt_trichotomy key l with hlt | rfl | hgt
    · rw [compare_lt_iff_lt.mpr hlt, if_neg (ne_of_gt hlt), if_pos hlt]
      exact .cons ⟨rfl, hd⟩ (.cons ⟨rfl, hw⟩ hs)
    · rw [compare_eq_iff_eq.mpr rfl, if_pos rfl]
      exact .cons ⟨rfl, hd⟩ hs
    · rw [compare_gt_iff_gt.mpr hgt, if_neg (ne_of_lt hgt), if_neg (not_lt_of_gt hgt)]
      exact .cons ⟨rfl, hw⟩ ih

theorem Entries.reads_ofPairs {entries : List (Datum × Datum)} {fields : List (String × Value)}
    (h : Entries.Reads entries fields) :
    Entries.Reads (Entries.ofPairs entries) (Fields.sorted fields) := by
  suffices hs : ∀ (es acc : List (Datum × Datum)) (fs acc' : List (String × Value)),
      Entries.Reads es fs → Entries.Reads acc acc' →
      Entries.Reads (es.foldl (fun entries p => Entries.put entries p.1 p.2) acc)
        (fs.foldl (fun sorted p => Fields.putSorted sorted p.1 p.2) acc') from
    hs entries [] fields [] h .nil
  intro es
  induction es with
  | nil =>
    rintro acc _ acc' ⟨⟩ ha
    exact ha
  | cons e es ih =>
    rintro acc _ acc' (_ | ⟨he, hes⟩) ha
    obtain ⟨k, d⟩ := e
    obtain ⟨rfl, hd⟩ := he
    rw [List.foldl_cons, List.foldl_cons]
    exact ih _ _ _ hes (Entries.reads_put hd ha)

/-- Entries are handed back field by field. -/
theorem Datum.toPairs_of_reads {entries : Entries} {fields : Fields}
    (h : Entries.Reads entries fields) : Datum.toPairs entries = .ok fields := by
  induction h with
  | nil => rfl
  | @cons e p entries fields he hs ih =>
    obtain ⟨k, d⟩ := e
    obtain ⟨l, v⟩ := p
    obtain ⟨rfl, hd⟩ := he
    rw [Datum.toPairs, hd, ih]
    rfl

/-! ### Values -/

theorem Datum.toValues_ofValues : ∀ {items : List Value},
    (∀ v ∈ items, (Datum.ofValue v).toValue = .ok v.canonical) →
    Datum.toValues (Datum.ofValues items) = .ok (items.map Value.canonical)
  | [], _ => rfl
  | v :: rest, h => by
    rw [List.forall_mem_cons] at h
    rw [Datum.ofValues, Datum.toValues, h.1, Datum.toValues_ofValues h.2]
    rfl

theorem Entries.reads_ofFields : ∀ {fields : Fields},
    (∀ p ∈ fields, (Datum.ofValue p.2).toValue = .ok p.2.canonical) →
    Entries.Reads (Datum.ofFields fields) (Fields.mapValues Value.canonical fields)
  | [], _ => .nil
  | (k, v) :: rest, h => by
    rw [List.forall_mem_cons] at h
    exact .cons ⟨rfl, h.1⟩ (Entries.reads_ofFields h.2)

/-- **A value comes back from a template as its canonical value.** -/
theorem Datum.toValue_ofValue (v : Value) : (Datum.ofValue v).toValue = .ok v.canonical := by
  induction v using Value.induction with
  | null => rfl
  | bool b => rfl
  | number x => exact Datum.toValue_ofNumber x
  | int i => exact Datum.toValue_int i
  | string s => rfl
  | list items ih =>
    rw [Datum.ofValue, Datum.toValue, Datum.toValues_ofValues ih, Value.canonical_list]
    rfl
  | map fields ih =>
    have hr := Entries.reads_ofPairs (Entries.reads_ofFields ih)
    rw [Datum.ofValue, Datum.toValue, Datum.toPairs_of_reads hr, Value.canonical_map, Except.map,
      Fields.sorted_sorted]

theorem Datum.ofValues_eq_map : ∀ items : List Value,
    Datum.ofValues items = items.map Datum.ofValue
  | [] => rfl
  | v :: rest => by rw [Datum.ofValues, Datum.ofValues_eq_map rest, List.map_cons]

theorem Datum.toValues_map_ofValue (args : List Value) :
    Datum.toValues (args.map Datum.ofValue) = .ok (args.map Value.canonical) := by
  rw [← Datum.ofValues_eq_map]
  exact Datum.toValues_ofValues fun v _ => Datum.toValue_ofValue v

end ChartRender.Template
