import ChartRender.Proofs.Json.Text
import ChartRender.Proofs.Value.Finite
/-!
# JSON texts read back

What is written for a value, in the compact form and in the indented one, is a text of its document
(`Value.toDocument`). That holds every integer as it is, null for a number that is not finite, and the
items of lists and the fields of maps in their order. So both forms are read back as the document
(`Value.parse?_toIndentedJson`), and decoded it is the value itself, as far as decoded data can have
it (`Value.parse?_toJson`).

Key definitions: `Value.depth`, `Value.toDocument`, `Value.Reads`.
Key theorems: `Value.isText_toJson`, `Value.isText_toIndentedJson`, `Value.parse?_toJson`,
`Value.parse?_toIndentedJson`.
-/

namespace ChartRender

namespace Value

open Json

mutual

/-- How many lists and maps enclose one another. -/
def depth : Value → Nat
  | .list items => depthAll items + 1
  | .map fields => depthFields fields + 1
  | _ => 0

/-- The greatest depth of values. -/
def depthAll : List Value → Nat
  | [] => 0
  | v :: rest => max (depth v) (depthAll rest)

/-- The greatest depth of the values of fields. -/
def depthFields : List (String × Value) → Nat
  | [] => 0
  | (_, v) :: rest => max (depth v) (depthFields rest)

end

theorem depthAll_le_iff {n : Nat} : ∀ {items : List Value},
    depthAll items ≤ n ↔ ∀ v ∈ items, v.depth ≤ n
  | [] => by simp [depthAll]
  | v :: rest => by
    rw [depthAll, Nat.max_le, depthAll_le_iff, List.forall_mem_cons]

theorem depthFields_le_iff {n : Nat} : ∀ {fields : List (String × Value)},
    depthFields fields ≤ n ↔ ∀ p ∈ fields, p.2.depth ≤ n
  | [] => by simp [depthFields]
  | (k, v) :: rest => by
    rw [depthFields, Nat.max_le, depthFields_le_iff, List.forall_mem_cons]

/-! ### Documents -/

end Value

/-- A 64-bit integer as a number of a document. -/
def JsonNumber.ofInt64 (i : Int64) : JsonNumber :=
  if 0 ≤ i.toInt then .unsigned (.ofNat i.toInt.toNat) else .negative i

namespace Value

mutual

/-- The document of a value. -/
def toDocument : Value → Json
  | .null => .null
  | .bool b => .bool b
  | .number x => if x.isFinite then .number (.float x) else .null
  | .int i => .number (.ofInt64 i)
  | .string s => .string s
  | .list items => .array (toDocuments items)
  | .map fields => .object (toMembers fields)

/-- The documents of values. -/
def toDocuments : List Value → List Json
  | [] => []
  | v :: rest => toDocument v :: toDocuments rest

/-- The members of an object for the fields of a map. -/
def toMembers : List (String × Value) → List (String × Json)
  | [] => []
  | (k, v) :: rest => (k, toDocument v) :: toMembers rest

end

theorem toDocuments_eq_map (items : List Value) : toDocuments items = items.map toDocument := by
  induction items with
  | nil => rfl
  | cons v rest ih => rw [toDocuments, ih, List.map_cons]

theorem toMembers_eq_mapValues (fields : Fields) :
    toMembers fields = Fields.mapValues toDocument fields := by
  induction fields with
  | nil => rfl
  | cons p rest ih => rw [toMembers, ih, Fields.mapValues_cons]

end Value

namespace JsonNumber

theorem toBinary64_ofInt64 (i : Int64) : (ofInt64 i).toBinary64 = .ofInt64 i := by
  have hlt := i.toInt_lt
  unfold ofInt64
  split_ifs with hi
  · rw [toBinary64, UInt64.toNat_ofNat_of_lt' (by change _ < 2 ^ 64; omega), Binary64.ofInt64,
      Int.toNat_of_nonneg hi]
  · rfl

/-- The digits of an integer with its sign are read as the integer. -/
theorem ofNumeral_ofInt64 (i : Int64) :
    ofNumeral true ⟨decide (i.toInt < 0), Nat.toDigits 10 i.toInt.natAbs, [], 0⟩ = ofInt64 i := by
  have hle := i.le_toInt
  have hlt := i.toInt_lt
  have hdigits := Decimal.ofDigits_toDigits i.toInt.natAbs
  unfold ofNumeral ofInt64 ofDigits?
  dsimp only
  rw [if_pos rfl, hdigits]
  by_cases hi : i.toInt < 0
  · have hn : -(i.toInt.natAbs : Int) = i.toInt := by omega
    have hfits : (i.toInt.natAbs : Int) ≠ 0 ∧ Width.isSigned 64 i.toInt = true := by
      rw [Width.isSigned, decide_eq_true_eq]
      exact ⟨by omega, hle, hlt⟩
    rw [decide_eq_true hi, if_pos rfl, hn, if_pos hfits, Option.getD_some, Int64.ofInt_toInt,
      if_neg (not_le_of_gt hi)]
  · have hn : (i.toInt.natAbs : Int) = i.toInt := by omega
    have hfits : Width.isUnsigned 64 i.toInt = true := by
      have hcount : i.toInt < 2 ^ 64 := by omega
      rw [Width.isUnsigned, decide_eq_true_eq]
      exact ⟨not_lt.mp hi, hcount⟩
    rw [decide_eq_false hi, if_neg Bool.false_ne_true, hn, if_pos hfits, Option.getD_some,
      if_pos (not_lt.mp hi)]

end JsonNumber

namespace Value

open Json

/-- **A document is decoded as its value**, as far as decoded data can have it. -/
theorem toValue_toDocument (v : Value) : v.HasDistinctKeys → v.toDocument.toValue = v.asData := by
  induction v using Value.induction with
  | null => exact fun _ => rfl
  | bool b => exact fun _ => rfl
  | number x =>
    intro _
    rw [toDocument, asData]
    split_ifs <;> rfl
  | int i =>
    intro _
    rw [toDocument, toValue, JsonNumber.toBinary64_ofInt64, asData]
  | string s => exact fun _ => rfl
  | list items ih =>
    intro hd
    rw [hasDistinctKeys_list] at hd
    rw [toDocument, toValue, toValues_eq_map, toDocuments_eq_map, asData_list, List.map_map]
    exact congrArg list (List.map_congr_left fun v hv => ih v hv (hd v hv))
  | map fields ih =>
    intro hd
    obtain ⟨hk, hd⟩ := hasDistinctKeys_map.mp hd
    have hpairs : toPairs (toMembers fields) = Fields.mapValues asData fields := by
      rw [toPairs_eq_map, toMembers_eq_mapValues, Fields.mapValues, List.map_map]
      exact List.map_congr_left fun p hp => congrArg (Prod.mk p.1) (ih p hp (hd p hp))
    rw [toDocument, toValue, hpairs, asData_map,
      Fields.ofPairs_of_nodup (by rwa [Fields.keys_mapValues])]

/-! ### Texts of leaves -/

/-- A finite number is written with a point or an exponent, so that it is not read as an integer. -/
theorem isText_number (x : Binary64) (depth : Nat) :
    IsText depth (Value.number x).toDocument (numberText x).toList := by
  rw [toDocument, numberText]
  split_ifs with hx
  · obtain ⟨n, cs, hs, hn, ht⟩ := numberLayout.exists_spells hx
    obtain ⟨tail, hwritten, rfl⟩ := hs.eq
    have htail := hwritten.isExponent
    have hplain : endsNumber (Decimal.pointed n.fraction ++ tail) = false := by
      by_contra hends
      obtain ⟨hf, -, rfl⟩ := of_endsNumber htail (Bool.eq_true_of_not_eq_false hends)
      have hmem := numberLayout.mem_text hx
      rw [ht, hf, Decimal.pointed, List.append_nil, List.append_nil] at hmem
      have hdigits : ∀ c ∈ Decimal.withSign n.negative n.whole, c = '-' ∨ c.isDigit = true := by
        intro c hc
        unfold Decimal.withSign at hc
        split_ifs at hc
        · exact (List.mem_cons.mp hc).imp_right (hs.whole.digits c)
        · exact Or.inr (hs.whole.digits c hc)
      rcases hmem with hmem | hmem <;> exact absurd (hdigits _ hmem) (by decide)
    have htext := IsText.number depth hs.whole hs.fraction htail (hn ▸ hx)
    rwa [hplain, JsonNumber.ofNumeral, if_neg Bool.false_ne_true, Option.getD_none, hn, ← ht,
      ← String.toList_ofList (l := numberLayout.text x)] at htext
  · exact .null depth

theorem isText_int (i : Int64) (depth : Nat) :
    IsText depth (Value.int i).toDocument (toString i.toInt).toList := by
  have hnumeral : Decimal.Numeral.toBinary64
      ⟨decide (i.toInt < 0), Nat.toDigits 10 i.toInt.natAbs, [], 0⟩ = .ofInt64 i := by
    rw [Decimal.Numeral.toBinary64_whole, Decimal.ofDigits_toDigits]
    rfl
  have hfinite := hnumeral ▸ Binary64.isFinite_ofInt64 i
  have htext := IsText.number depth (Decimal.isWhole_toDigits i.toInt.natAbs) (by simp) .none hfinite
  rw [toDocument, ← JsonNumber.ofNumeral_ofInt64, Decimal.Numeral.toList_toString_int]
  simpa [Decimal.pointed, endsNumber] using htext

/-! ### Compact texts -/

theorem toList_toJson_list (items : List Value) :
    (Value.list items).toJson.toList = '[' :: ((toJsonItems items).toList ++ [']']) := by
  simp [toJson]

theorem toList_toJson_map (fields : Fields) :
    (Value.map fields).toJson.toList = '\x7b' :: ((toJsonFields fields).toList ++ ['\x7d']) := by
  simp [toJson]

section
variable {depth : Nat}

theorem isItems_toJsonItems : ∀ {items : List Value}, items ≠ [] →
    (∀ v ∈ items, IsText depth v.toDocument v.toJson.toList) →
    IsItems depth (toDocuments items) (toJsonItems items).toList
  | [v], _, h => by
    have hlast := IsItems.last isBlank_nil (h v List.mem_cons_self) isBlank_nil
    simpa [toJsonItems, toDocuments] using hlast
  | v :: w :: rest, _, h => by
    rw [List.forall_mem_cons] at h
    have hrest := isItems_toJsonItems (List.cons_ne_nil w rest) h.2
    have hcons := IsItems.cons isBlank_nil h.1 hrest
    simpa [toJsonItems, toDocuments] using hcons

theorem isMembers_toJsonFields : ∀ {fields : List (String × Value)}, fields ≠ [] →
    (∀ p ∈ fields, IsText depth p.2.toDocument p.2.toJson.toList) →
    IsMembers depth (toMembers fields) (toJsonFields fields).toList
  | [(k, v)], _, h => by
    have hlast := IsMembers.last k isBlank_nil isBlank_nil (h (k, v) List.mem_cons_self) isBlank_nil
    simpa [toJsonFields, toMembers, toList_quoted] using hlast
  | (k, v) :: q :: rest, _, h => by
    rw [List.forall_mem_cons] at h
    have hrest := isMembers_toJsonFields (List.cons_ne_nil q rest) h.2
    have hcons := IsMembers.cons k isBlank_nil isBlank_nil h.1 hrest
    simpa [toJsonFields, toMembers, toList_quoted] using hcons

/-- **The compact form of a value is a text of its document.** -/
theorem isText_toJson (v : Value) : ∀ {depth : Nat}, v.depth ≤ depth →
    IsText depth v.toDocument v.toJson.toList := by
  induction v using Value.induction with
  | null =>
    intro depth _
    rw [toDocument, toJson]
    exact .null depth
  | bool b =>
    intro depth _
    rw [toDocument, toJson]
    exact .bool depth b
  | number x => exact fun _ => isText_number x _
  | int i => exact fun _ => isText_int i _
  | string s =>
    intro depth _
    rw [toDocument, toJson, toList_quoted]
    exact .string depth s
  | list items ih =>
    intro depth h
    obtain ⟨depth, rfl⟩ : ∃ n, depth = n + 1 := ⟨depth - 1, by rw [Value.depth] at h; omega⟩
    rw [Value.depth, Nat.add_le_add_iff_right, depthAll_le_iff] at h
    cases items with
    | nil => exact .emptyArray depth
    | cons v rest =>
      rw [toList_toJson_list]
      exact .array (isItems_toJsonItems (List.cons_ne_nil v rest) fun v hv => ih v hv (h v hv))
  | map fields ih =>
    intro depth h
    obtain ⟨depth, rfl⟩ : ∃ n, depth = n + 1 := ⟨depth - 1, by rw [Value.depth] at h; omega⟩
    rw [Value.depth, Nat.add_le_add_iff_right, depthFields_le_iff] at h
    cases fields with
    | nil => exact .emptyObject depth
    | cons p rest =>
      rw [toList_toJson_map]
      exact .object (isMembers_toJsonFields (List.cons_ne_nil p rest) fun p hp => ih p hp (h p hp))

/-! ### Indented texts -/

theorem isBlank_lineBreak (level : Nat) : IsBlank (lineBreak level).toList := by
  rw [lineBreak, String.toList_ofList]
  intro c hc
  rcases List.mem_cons.mp hc with rfl | hc
  · rfl
  · rw [List.eq_of_mem_replicate hc]
    rfl

theorem isBlank_blank : IsBlank [' '] := by simp [IsBlank, isSpace]

/-- The items of a list with the line break behind them, which belongs to the list. -/
theorem isItems_toIndentedItems {level : Nat} {after : List Char} (ha : IsBlank after) :
    ∀ {items : List Value}, items ≠ [] →
    (∀ v ∈ items, IsText depth v.toDocument (v.toIndentedJson level).toList) →
    IsItems depth (toDocuments items) ((toIndentedItems level items).toList ++ after)
  | [v], _, h => by
    have hlast := IsItems.last (isBlank_lineBreak level) (h v List.mem_cons_self) ha
    simpa [toIndentedItems, toDocuments] using hlast
  | v :: w :: rest, _, h => by
    rw [List.forall_mem_cons] at h
    have hrest := isItems_toIndentedItems ha (List.cons_ne_nil w rest) h.2
    have hcons := IsItems.cons (isBlank_lineBreak level) h.1 hrest
    simpa [toIndentedItems, toDocuments] using hcons

theorem isMembers_toIndentedFields {level : Nat} {after : List Char} (ha : IsBlank after) :
    ∀ {fields : List (String × Value)}, fields ≠ [] →
    (∀ p ∈ fields, IsText depth p.2.toDocument (p.2.toIndentedJson level).toList) →
    IsMembers depth (toMembers fields) ((toIndentedFields level fields).toList ++ after)
  | [(k, v)], _, h => by
    have hlast := IsMembers.last k (isBlank_lineBreak level) isBlank_blank
      (h (k, v) List.mem_cons_self) ha
    simpa [toIndentedFields, toMembers, toList_quoted] using hlast
  | (k, v) :: q :: rest, _, h => by
    rw [List.forall_mem_cons] at h
    have hrest := isMembers_toIndentedFields ha (List.cons_ne_nil q rest) h.2
    have hcons := IsMembers.cons k (isBlank_lineBreak level) isBlank_blank h.1 hrest
    simpa [toIndentedFields, toMembers, toList_quoted] using hcons

/-- **The indented form of a value is a text of its document**, on every level. -/
theorem isText_toIndentedJson (v : Value) : ∀ (level : Nat) {depth : Nat}, v.depth ≤ depth →
    IsText depth v.toDocument (v.toIndentedJson level).toList := by
  induction v using Value.induction with
  | null =>
    intro level depth _
    rw [toDocument, toIndentedJson]
    exact .null depth
  | bool b =>
    intro level depth _
    rw [toDocument, toIndentedJson]
    exact .bool depth b
  | number x => exact fun _ _ _ => isText_number x _
  | int i => exact fun _ _ _ => isText_int i _
  | string s =>
    intro level depth _
    rw [toDocument, toIndentedJson, toList_quoted]
    exact .string depth s
  | list items ih =>
    intro level depth h
    obtain ⟨depth, rfl⟩ : ∃ n, depth = n + 1 := ⟨depth - 1, by rw [Value.depth] at h; omega⟩
    rw [Value.depth, Nat.add_le_add_iff_right, depthAll_le_iff] at h
    cases items with
    | nil => exact .emptyArray depth
    | cons v rest =>
      have hitems := isItems_toIndentedItems (isBlank_lineBreak level) (List.cons_ne_nil v rest)
        fun v hv => ih v hv (level + 1) (h v hv)
      simp only [toIndentedJson, String.toList_append]
      exact .array hitems
  | map fields ih =>
    intro level depth h
    obtain ⟨depth, rfl⟩ : ∃ n, depth = n + 1 := ⟨depth - 1, by rw [Value.depth] at h; omega⟩
    rw [Value.depth, Nat.add_le_add_iff_right, depthFields_le_iff] at h
    cases fields with
    | nil => exact .emptyObject depth
    | cons p rest =>
      have hmembers := isMembers_toIndentedFields (isBlank_lineBreak level)
        (List.cons_ne_nil p rest) fun p hp => ih p hp (level + 1) (h p hp)
      simp only [toIndentedJson, String.toList_append]
      exact .object hmembers

end

/-! ### Reading back -/

/-- **The indented form is read as the document**, white space behind it included. -/
theorem parse?_toIndentedJson (v : Value) (hd : v.depth ≤ 127) {blank : String}
    (hb : IsBlank blank.toList) :
    Json.parse? (v.toIndentedJson 0 ++ blank) = some v.toDocument :=
  parse?_of_isText (isText_toIndentedJson v 0 hd) hb String.toList_append

/-- A value whose compact text is read as a document of the value as data. -/
def Reads (v : Value) : Prop := ∃ j, (∀ depth, v.depth ≤ depth → IsText depth j v.toJson.toList) ∧
  j.toValue = v.asData

/-- **Every value's text is read as a document of the value as data**, if no key stands twice in a
map. -/
theorem reads (v : Value) (h : v.HasDistinctKeys) : v.Reads :=
  ⟨v.toDocument, fun _ => isText_toJson v, toValue_toDocument v h⟩

/-- A text that is read as a document of its value is one, unless it is nested too deep. -/
theorem Reads.parse? {v : Value} (h : v.Reads) (hd : v.depth ≤ 127) :
    (Json.parse? v.toJson).map toValue = some v.asData := by
  obtain ⟨j, hj, hv⟩ := h
  rw [parse?_of_isText (hj maxDepth hd) isBlank_nil (List.append_nil _).symm, Option.map_some, hv]

/-- **Decoding undoes writing.** The compact text of a value whose lists and maps are nested at most as
deep as the reader goes is read as the value itself, with a number for each integer and null for each
number that is not finite. -/
theorem parse?_toJson (v : Value) (hd : v.depth ≤ 127) (hk : v.HasDistinctKeys) :
    (parse? v.toJson).map toValue = some v.asData := (reads v hk).parse? hd

/-- A control character in a key, an integer and an infinity. -/
theorem parse?_toJson_image : (parse? "\x7b\"a\\n\":[-3,null,\"\\u0001\"],\"\":\x7b\x7d\x7d").map toValue =
    some (.map [("a\n", .list [.number (.ofInt64 (-3)), .null, .string "\x01"]), ("", .map [])]) :=
  parse?_toJson (.map [("a\n", .list [.int (-3), .number .infinity, .string "\x01"]),
    ("", .map [])]) (by decide) (by simp)

end Value
end ChartRender
