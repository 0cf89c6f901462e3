import ChartRender.Proofs.Json.Leaf
/-!
# Texts of documents

A document has many texts: between the tokens there may be white space, and a number can be set out
in more than one way (`Json.IsText`). Strings are escaped in one way only, that of the printers. The
reader finds the document in each of these texts, unless it is nested too deep
(`Json.parse?_of_isText`). So whoever writes JSON only has to write a text of the right document.

The reader is described by rules, one for each way in which it goes on, and these are put together by
induction over the text. Each step of the reader is paid for by the characters that it takes.

Key definitions: `Json.IsText`, `Json.IsBlank`.
Key theorems: `Json.value?_of_isText`, `Json.parse?_of_isText`.
-/

namespace ChartRender.Json

open Decimal

/-! ### White space -/

/-- White space, as it may stand between tokens. -/
def IsBlank (cs : List Char) : Prop := ∀ c ∈ cs, isSpace c = true

theorem isBlank_nil : IsBlank [] := by simp [IsBlank]

section
variable {fuel depth : Nat} {blank cs rest : List Char}

theorem skipSpace_cons {c : Char} (h : isSpace c = false) (cs : List Char) :
    skipSpace (c :: cs) = c :: cs := by
  rw [skipSpace, List.dropWhile_cons_of_neg (by simp [h])]

theorem skipSpace_append (h : IsBlank blank) (cs : List Char) :
    skipSpace (blank ++ cs) = skipSpace cs := List.dropWhile_append_of_pos h

theorem skipSpace_skipSpace (cs : List Char) : skipSpace (skipSpace cs) = skipSpace cs :=
  List.dropWhile_idempotent isSpace cs

/-- White space and what may follow a document may follow a document. -/
theorem IsBlank.delimits (h : IsBlank blank) (hr : Delimits rest) : Delimits (blank ++ rest) := by
  cases blank with
  | nil => exact hr
  | cons c cs =>
    have hc := h c List.mem_cons_self
    refine delimits_cons ?_ _
    simp only [isSpace, Bool.or_eq_true, beq_iff_eq] at hc
    rcases hc with ((rfl | rfl) | rfl) | rfl <;> decide

theorem value?_skipSpace : value? fuel depth (skipSpace cs) = value? fuel depth cs := by
  cases fuel with
  | zero => rfl
  | succ fuel => simp only [value?, skipSpace_skipSpace]

theorem items?_skipSpace : items? fuel depth (skipSpace cs) = items? fuel depth cs := by
  cases fuel with
  | zero => rfl
  | succ fuel => simp only [items?, value?_skipSpace]

theorem members?_skipSpace : members? fuel depth (skipSpace cs) = members? fuel depth cs := by
  cases fuel with
  | zero => rfl
  | succ fuel => simp only [members?, skipSpace_skipSpace]

theorem value?_append (h : IsBlank blank) :
    value? fuel depth (blank ++ cs) = value? fuel depth cs := by
  rw [← value?_skipSpace, skipSpace_append h, value?_skipSpace]

theorem items?_append (h : IsBlank blank) :
    items? fuel depth (blank ++ cs) = items? fuel depth cs := by
  rw [← items?_skipSpace, skipSpace_append h, items?_skipSpace]

theorem members?_append (h : IsBlank blank) :
    members? fuel depth (blank ++ cs) = members? fuel depth cs := by
  rw [← members?_skipSpace, skipSpace_append h, members?_skipSpace]

end

/-! ### Texts -/

/-- The characters of a string in quotes. -/
def quotedChars (s : String) : List Char := '"' :: (s.toList.flatMap escaped ++ ['"'])

theorem toList_quoted (s : String) : (quoted s).toList = quotedChars s := String.toList_ofList

mutual

/-- Characters that are a text of a document of at most some depth. -/
inductive IsText : Nat → Json → List Char → Prop
  | null (depth : Nat) : IsText depth .null "null".toList
  | bool (depth : Nat) (b : Bool) : IsText depth (.bool b) (if b then "true" else "false").toList
  | number (depth : Nat) {n : Numeral} {tail : List Char} (hw : IsWhole n.whole)
      (hf : ∀ c ∈ n.fraction, c.isDigit = true) (ht : IsExponent n.exponent tail)
      (hn : n.toBinary64.isFinite = true) :
      IsText depth (.number (.ofNumeral (endsNumber (pointed n.fraction ++ tail)) n))
        (withSign n.negative (n.whole ++ pointed n.fraction ++ tail))
  | string (depth : Nat) (s : String) : IsText depth (.string s) (quotedChars s)
  | emptyArray (depth : Nat) : IsText (depth + 1) (.array []) "[]".toList
  | array {depth : Nat} {js : List Json} {cs : List Char} (h : IsItems depth js cs) :
      IsText (depth + 1) (.array js) ('[' :: (cs ++ [']']))
  | emptyObject (depth : Nat) : IsText (depth + 1) (.object []) "\x7b\x7d".toList
  | object {depth : Nat} {ms : List (String × Json)} {cs : List Char} (h : IsMembers depth ms cs) :
      IsText (depth + 1) (.object ms) ('\x7b' :: (cs ++ ['\x7d']))

/-- Characters that are a text of the elements of an array. -/
inductive IsItems : Nat → List Json → List Char → Prop
  | last {depth : Nat} {j : Json} {before cs after : List Char} (hb : IsBlank before)
      (h : IsText depth j cs) (ha : IsBlank after) : IsItems depth [j] (before ++ (cs ++ after))
  | cons {depth : Nat} {j : Json} {js : List Json} {before cs ds : List Char} (hb : IsBlank before)
      (h : IsText depth j cs) (hs : IsItems depth js ds) :
      IsItems depth (j :: js) (before ++ (cs ++ ',' :: ds))

/-- Characters that are a text of the members of an object. -/
inductive IsMembers : Nat → List (String × Json) → List Char → Prop
  | last {depth : Nat} {j : Json} {before between cs after : List Char} (key : String)
      (hb : IsBlank before) (hm : IsBlank between) (h : IsText depth j cs) (ha : IsBlank after) :
      IsMembers depth [(key, j)]
        (before ++ (quotedChars key ++ ':' :: (between ++ (cs ++ after))))
  | cons {depth : Nat} {j : Json} {ms : List (String × Json)} {before between cs ds : List Char}
      (key : String) (hb : IsBlank before) (hm : IsBlank between) (h : IsText depth j cs)
      (hs : IsMembers depth ms ds) :
      IsMembers depth ((key, j) :: ms)
        (before ++ (quotedChars key ++ ':' :: (between ++ (cs ++ ',' :: ds))))

end

theorem IsText.length_pos {depth : Nat} {j : Json} {cs : List Char} (h : IsText depth j cs) :
    0 < cs.length := by
  cases h with
  | null => decide
  | bool depth b => cases b <;> decide
  | number depth hw hf ht hn =>
    have hpos := List.length_pos_of_ne_nil hw.ne_nil
    unfold withSign
    split_ifs
    · exact Nat.succ_pos _
    · simp only [List.length_append]
      omega
  | string => exact Nat.succ_pos _
  | emptyArray => decide
  | emptyObject => decide
  | array | object => exact Nat.succ_pos _

/-! ### Rules of the reader -/

section
variable {fuel depth : Nat} {blank between cs rest rest' : List Char} {j : Json}

theorem value?_null : value? (fuel + 1) depth ("null".toList ++ rest) = some (.null, rest) := rfl

theorem value?_bool (b : Bool) :
    value? (fuel + 1) depth ((if b then "true" else "false").toList ++ rest) =
      some (.bool b, rest) := by
  cases b <;> rfl

/-- A document that starts with a digit or a sign is a number. -/
theorem value?_number {c : Char} (hc : c = '-' ∨ c.isDigit = true) :
    value? (fuel + 1) depth (c :: cs) =
      (number? (c :: cs)).map fun (n, rest) => (.number n, rest) := by
  have hspace : isSpace c = false := by
    rcases hc with rfl | hc
    · rfl
    · simp [isSpace, fun d => ne_of_isDigit (d := d) hc]
  have hne : c ≠ 'n' ∧ c ≠ 't' ∧ c ≠ 'f' ∧ c ≠ '"' ∧ c ≠ '[' ∧ c ≠ '\x7b' := by
    rcases hc with rfl | hc
    · decide
    · refine ⟨?_, ?_, ?_, ?_, ?_, ?_⟩ <;> exact ne_of_isDigit hc rfl
  rw [value?.eq_def]
  dsimp only
  rw [skipSpace_cons hspace]
  split
  case h_7 => rfl
  all_goals
    rename_i h
    have := (List.cons.inj h).1
    tauto

/-- **A quoted string is read as a document.** -/
theorem value?_string (s : String) :
    value? (fuel + 1) depth (quotedChars s ++ rest) = some (.string s, rest) := by
  have hs := stringBody?_append s.toList rest
  rw [quotedChars, List.cons_append, value?, skipSpace_cons rfl]
  simp only [List.append_assoc, List.singleton_append, hs, Option.map_some, String.ofList_toList]

theorem items?_last (h : value? fuel depth cs = some (j, blank ++ ']' :: rest))
    (hb : IsBlank blank) : items? (fuel + 1) depth cs = some ([j], rest) := by
  simp only [items?, h, skipSpace_append hb, skipSpace_cons (show isSpace ']' = false from rfl)]

theorem items?_cons {js : List Json} (h : value? fuel depth cs = some (j, ',' :: rest))
    (h' : items? fuel depth rest = some (js, rest')) :
    items? (fuel + 1) depth cs = some (j :: js, rest') := by
  simp only [items?, h, skipSpace_cons (show isSpace ',' = false from rfl), h', Option.map_some]

theorem members?_last (key : String) (hm : IsBlank between)
    (h : value? fuel depth cs = some (j, blank ++ '\x7d' :: rest)) (hb : IsBlank blank) :
    members? (fuel + 1) depth (quotedChars key ++ ':' :: (between ++ cs)) =
      some ([(key, j)], rest) := by
  have hk := stringBody?_append key.toList (':' :: (between ++ cs))
  simp only [members?, quotedChars, List.cons_append, List.append_assoc, List.nil_append,
    skipSpace_cons (show isSpace '"' = false from rfl), hk,
    skipSpace_cons (show isSpace ':' = false from rfl), value?_append hm, h, skipSpace_append hb,
    skipSpace_cons (show isSpace '\x7d' = false from rfl), String.ofList_toList]

theorem members?_cons {ms : List (String × Json)} (key : String) (hm : IsBlank between)
    (h : value? fuel depth cs = some (j, ',' :: rest))
    (h' : members? fuel depth rest = some (ms, rest')) :
    members? (fuel + 1) depth (quotedChars key ++ ':' :: (between ++ cs)) =
      some ((key, j) :: ms, rest') := by
  have hk := stringBody?_append key.toList (':' :: (between ++ cs))
  simp only [members?, quotedChars, List.cons_append, List.append_assoc, List.nil_append,
    skipSpace_cons (show isSpace '"' = false from rfl), hk,
    skipSpace_cons (show isSpace ':' = false from rfl), value?_append hm, h,
    skipSpace_cons (show isSpace ',' = false from rfl), String.ofList_toList, h', Option.map_some]

theorem value?_emptyArray :
    value? (fuel + 1) (depth + 1) ("[]".toList ++ rest) = some (.array [], rest) := rfl

/-- What has elements does not start with a closing bracket. -/
theorem items?_close : items? fuel depth (']' :: rest) = none := by
  cases fuel with
  | zero => rfl
  | succ fuel =>
    cases fuel with
    | zero => rfl
    | succ fuel => rfl

theorem value?_array {js : List Json} (h : items? fuel depth cs = some (js, rest)) :
    value? (fuel + 1) (depth + 1) ('[' :: cs) = some (.array js, rest) := by
  simp only [value?, skipSpace_cons (show isSpace '[' = false from rfl)]
  split
  · rename_i hcs
    rw [← items?_skipSpace, hcs, items?_close] at h
    cases h
  · rw [items?_skipSpace, h, Option.map_some]

theorem value?_emptyObject :
    value? (fuel + 1) (depth + 1) ("\x7b\x7d".toList ++ rest) = some (.object [], rest) := rfl

theorem members?_close : members? fuel depth ('\x7d' :: rest) = none := by
  cases fuel <;> rfl

theorem value?_object {ms : List (String × Json)} (h : members? fuel depth cs = some (ms, rest)) :
    value? (fuel + 1) (depth + 1) ('\x7b' :: cs) = some (.object ms, rest) := by
  simp only [value?, skipSpace_cons (show isSpace '\x7b' = false from rfl)]
  split
  · rename_i hcs
    rw [← members?_skipSpace, hcs, members?_close] at h
    cases h
  · rw [members?_skipSpace, h, Option.map_some]

end

/-! ### Reading texts -/

mutual

/-- **The reader finds a document in every text of it**, whatever may follow. The fuel that this takes
is less than twice the length of the text. -/
theorem value?_of_isText {depth : Nat} {j : Json} {cs : List Char} (h : IsText depth j cs)
    (fuel : Nat) (rest : List Char) (hf : 2 * cs.length ≤ fuel + 1) (hr : Delimits rest) :
    value? fuel depth (cs ++ rest) = some (j, rest) := by
  obtain ⟨fuel, rfl⟩ : ∃ n, fuel = n + 1 := ⟨fuel - 1, by have := h.length_pos; omega⟩
  match h with
  | .null depth => exact value?_null
  | .bool depth b => exact value?_bool b
  | .number depth hw hfraction ht hn =>
    have hread := number?_append hw hfraction ht hn hr
    obtain ⟨c, cs', hcs, hc⟩ := exists_cons_withSign hw _ _ _
    rw [hcs, List.cons_append] at hread ⊢
    rw [value?_number hc, hread, Option.map_some]
  | .string depth s => exact value?_string s
  | .emptyArray depth => exact value?_emptyArray
  | .array hi =>
    simp only [List.length_cons, List.length_append, List.length_nil] at hf
    rw [List.cons_append, List.append_assoc, List.singleton_append]
    exact value?_array (items?_of_isItems hi fuel rest (by omega))
  | .emptyObject depth => exact value?_emptyObject
  | .object hm =>
    simp only [List.length_cons, List.length_append, List.length_nil] at hf
    rw [List.cons_append, List.append_assoc, List.singleton_append]
    exact value?_object (members?_of_isMembers hm fuel rest (by omega))

theorem items?_of_isItems {depth : Nat} {js : List Json} {cs : List Char} (h : IsItems depth js cs)
    (fuel : Nat) (rest : List Char) (hf : 2 * cs.length ≤ fuel) :
    items? fuel depth (cs ++ ']' :: rest) = some (js, rest) := by
  match h with
  | .last hb hj ha =>
    have hpos := hj.length_pos
    simp only [List.length_append] at hf
    obtain ⟨fuel, rfl⟩ : ∃ n, fuel = n + 1 := ⟨fuel - 1, by omega⟩
    rw [List.append_assoc, List.append_assoc, items?_append hb]
    refine items?_last ?_ ha
    exact value?_of_isText hj fuel _ (by omega) (ha.delimits (delimits_cons (by decide) rest))
  | .cons hb hj hs =>
    simp only [List.length_append, List.length_cons] at hf
    obtain ⟨fuel, rfl⟩ : ∃ n, fuel = n + 1 := ⟨fuel - 1, by omega⟩
    rw [List.append_assoc, List.append_assoc, List.cons_append, items?_append hb]
    refine items?_cons ?_ (items?_of_isItems hs fuel rest (by omega))
    exact value?_of_isText hj fuel _ (by omega) (delimits_cons (by decide) _)

theorem members?_of_isMembers {depth : Nat} {ms : List (String × Json)} {cs : List Char}
    (h : IsMembers depth ms cs) (fuel : Nat) (rest : List Char) (hf : 2 * cs.length ≤ fuel) :
    members? fuel depth (cs ++ '\x7d' :: rest) = some (ms, rest) := by
  match h with
  | .last key hb hm hj ha =>
    have hpos := hj.length_pos
    simp only [List.length_append, List.length_cons] at hf
    obtain ⟨fuel, rfl⟩ : ∃ n, fuel = n + 1 := ⟨fuel - 1, by omega⟩
    simp only [List.append_assoc, List.cons_append]
    rw [members?_append hb]
    refine members?_last key hm ?_ ha
    exact value?_of_isText hj fuel _ (by omega) (ha.delimits (delimits_cons (by decide) rest))
  | .cons key hb hm hj hs =>
    simp only [List.length_append, List.length_cons] at hf
    obtain ⟨fuel, rfl⟩ : ∃ n, fuel = n + 1 := ⟨fuel - 1, by omega⟩
    simp only [List.append_assoc, List.cons_append]
    rw [members?_append hb]
    refine members?_cons key hm ?_ (members?_of_isMembers hs fuel rest (by omega))
    exact value?_of_isText hj fuel _ (by omega) (delimits_cons (by decide) _)

end

/-- **A text is read as the document that it is a text of.** -/
theorem parse?_of_isText {text : String} {j : Json} {cs blank : List Char}
    (h : IsText maxDepth j cs) (hb : IsBlank blank) (he : text.toList = cs ++ blank) :
    parse? text = some j := by
  have hr : Delimits (blank ++ []) := hb.delimits delimits_nil
  rw [List.append_nil] at hr
  have hlen : text.toList.length = cs.length + blank.length := by rw [he, List.length_append]
  have hread := value?_of_isText h (2 * text.toList.length + 2) blank (by omega) hr
  have hskip : skipSpace blank = [] := List.dropWhile_eq_nil_iff.mpr hb
  rw [parse?, he] at *
  simp only [hread, hskip, List.isEmpty_nil, if_true]

end ChartRender.Json
