import ChartRender.Proofs.Decimal.Spelling
import ChartRender.Template.Token
/-!
# The tokens of a template

Every step of the tokenizer takes a character, so more fuel than there are characters changes
nothing (`tokensFrom_fuel`). What stands behind a name is therefore read as it would be behind any
other name (`tokens_head`).

Key theorems: `tokensFrom_fuel`, `tokens_head`.
-/

namespace ChartRender.Template

/-! ### What is left behind a token -/

theorem length_span_le (p : Char → Bool) (cs : List Char) : (cs.span p).2.length ≤ cs.length := by
  rw [List.span_eq_takeWhile_dropWhile]
  exact List.length_dropWhile_le p cs

/-- Of a row that starts with a character that counts, at least that one is taken. -/
theorem length_span_lt {p : Char → Bool} {c : Char} (hc : p c = true) (cs : List Char) :
    ((c :: cs).span p).2.length < (c :: cs).length := by
  rw [List.span_eq_takeWhile_dropWhile, List.dropWhile_cons_of_pos hc, List.length_cons]
  exact Nat.lt_succ_of_le (List.length_dropWhile_le p cs)

theorem length_splitText_le (cs : List Char) : (splitText cs).2.length ≤ cs.length := by
  fun_induction splitText cs with
  | case1 => exact Nat.le_refl _
  | case2 => exact Nat.le_refl _
  | case3 c cs hc text rest he ih =>
    rw [he] at ih
    exact Nat.le_succ_of_le ih
  | case4 c cs hc text rest he ih =>
    rw [he] at ih
    exact Nat.le_succ_of_le ih

theorem length_splitComment? {cs comment after : List Char}
    (h : splitComment? cs = some (comment, after)) : after.length < cs.length := by
  fun_induction splitComment? cs generalizing comment after with
  | case1 => cases h
  | case2 cs =>
    cases h
    simp
  | case3 c cs hc ih =>
    obtain ⟨⟨comment', after'⟩, hs, he⟩ := Option.map_eq_some_iff.mp h
    cases he
    exact Nat.lt_succ_of_lt (ih hs)

theorem length_openingSign_le (cs : List Char) : (openingSign cs).2.length ≤ cs.length := by
  unfold openingSign
  split <;> simp

theorem length_codeEnd? {statement trim : Bool} {cs rest : List Char}
    (h : codeEnd? statement cs = some (trim, rest)) : rest.length < cs.length := by
  unfold codeEnd? at h
  dsimp only at h
  generalize (if statement = true then '%' else '\x7d') = mark at h
  split at h
  · split at h
    · cases h
      simp
    · split at h
      · split_ifs at h <;> cases h <;> simp only [List.length_cons] <;> omega
      · cases h
  · cases h

theorem length_symbol? {cs rest : List Char} {t : Token} (h : symbol? cs = some (t, rest)) :
    rest.length < cs.length := by
  unfold symbol? at h
  split at h
  · cases h
  · split_ifs at h
    cases h
    simp
  · split_ifs at h <;> cases h <;> simp

theorem length_splitNumber_le (part : NumberPart) (cs : List Char) :
    (splitNumber part cs).2.2.length ≤ cs.length := by
  fun_induction splitNumber part cs with
  | case1 => exact Nat.le_refl _
  | case2 part c cs part' hp number last rest he ih =>
    rw [he] at ih
    exact Nat.le_succ_of_le ih
  | case3 => exact Nat.le_refl _

theorem length_numberToken {c : Char} (hc : c.isDigit = true) (cs : List Char) :
    (numberToken (c :: cs)).2.length < (c :: cs).length := by
  have hbase : ∀ (base : Nat) (cs : List Char), (baseToken base cs).2.length ≤ cs.length :=
    fun base cs => length_span_le (isDigitIn base) cs
  unfold numberToken
  split
  iterate 6
    rename_i h
    obtain ⟨rfl, rfl⟩ := List.cons.inj h
    exact Nat.lt_succ_of_le (Nat.le_succ_of_le (hbase _ _))
  -- the first digit of any other number is taken
  have hn : NumberPart.next? .whole c = some .whole := by
    unfold NumberPart.next?
    split_ifs <;> rfl
  dsimp only
  rw [splitNumber, hn]
  exact Nat.lt_succ_of_le (length_splitNumber_le .whole cs)

theorem length_splitString? {quote : Char} {cs written rest : List Char}
    (h : splitString? quote cs = some (written, rest)) : rest.length ≤ cs.length := by
  fun_induction splitString? quote cs generalizing written rest with
  | case1 => cases h
  | case2 c cs ih =>
    obtain ⟨⟨written', rest'⟩, hs, he⟩ := Option.map_eq_some_iff.mp h
    cases he
    exact Nat.le_succ_of_le (Nat.le_succ_of_le (ih hs))
  | case3 => cases h
  | case4 =>
    cases h
    exact Nat.le_succ _
  | case5 c cs _ _ _ ih =>
    obtain ⟨⟨written', rest'⟩, hs, he⟩ := Option.map_eq_some_iff.mp h
    cases he
    exact Nat.le_succ_of_le (ih hs)

theorem isNameChar_of_isNameStart {c : Char} (h : isNameStart c = true) : isNameChar c = true := by
  revert h
  simp only [isNameStart, isNameChar, Char.isAlphanum, Bool.or_eq_true]
  tauto

/-- **A token takes at least one character**, unless the end is reached. -/
theorem length_codeToken {cs rest : List Char} {t : Token} (h : codeToken cs = (t, rest)) :
    t = .finish ∨ rest.length < cs.length := by
  unfold codeToken at h
  split at h
  · rename_i hs
    exact Or.inr (length_symbol? (h ▸ hs))
  · split at h
    · exact Or.inl (Prod.mk.inj h).1.symm
    · rename_i c cs _
      refine Or.inr ?_
      split_ifs at h with hq hd hn
      · split at h
        · rename_i hs
          cases h
          exact Nat.lt_succ_of_le (length_splitString? hs)
        · cases h
          simp
      · have := length_numberToken hd cs
        rwa [h] at this
      · have := length_span_lt (isNameChar_of_isNameStart hn) cs
        cases h
        exact this
      · cases h
        simp

/-! ### Fuel -/

/-- **More fuel than there are characters changes nothing.** -/
theorem tokensFrom_fuel (last fuel fuel' : Nat) (region : Region) (line : Nat) (cs : List Char)
    (h : cs.length < fuel) (h' : cs.length < fuel') :
    tokensFrom last fuel region line cs = tokensFrom last fuel' region line cs := by
  induction fuel generalizing fuel' region line cs with
  | zero => omega
  | succ fuel ih =>
    obtain ⟨fuel', rfl⟩ : ∃ n, fuel' = n + 1 := ⟨fuel' - 1, by omega⟩
    cases region with
    | text trim =>
      have hs := length_splitText_le cs
      rw [tokensFrom, tokensFrom]
      generalize splitText cs = p at hs
      obtain ⟨text, rest⟩ := p
      dsimp only at hs ⊢
      split
      · split
        · rfl
        · rename_i hc
          have := length_splitComment? hc
          rw [ih fuel' _ _ _ (by simp at hs; omega) (by simp at hs; omega)]
      · rename_i rest _
        have := length_openingSign_le rest
        rw [ih fuel' _ _ _ (by simp at hs; omega) (by simp at hs; omega)]
      · rfl
    | code statement depth =>
      have hs := length_span_le isGap cs
      rw [tokensFrom, tokensFrom]
      generalize cs.span isGap = p at hs
      obtain ⟨gap, cs⟩ := p
      dsimp only at hs ⊢
      split
      · rename_i hc
        have : _ := length_codeEnd? (by split_ifs at hc; exact hc)
        rw [ih fuel' _ _ _ (by omega) (by omega)]
      · split
        · rfl
        · rfl
        · rfl
        · rename_i hf _ _ hc
          have := (length_codeToken hc).resolve_left (hf)
          rw [ih fuel' _ _ _ (by omega) (by omega)]

/-! ### A name at the start of an expression -/

section
variable {first : Char} {more : List Char}

theorem symbol?_of_isNameChar {c : Char} (h : isNameChar c = true) (cs : List Char) :
    symbol? (c :: cs) = none := by
  have hshort : shortSymbols.all (fun d => !isNameChar d) = true := by decide
  have hlong : longSymbols.all (fun p => !isNameChar p.1) = true := by decide
  have hc : c ∉ shortSymbols := fun hc => by simpa [h] using List.all_eq_true.mp hshort c hc
  have hcd : ∀ d, (c, d) ∉ longSymbols := fun d hd => by
    simpa [h] using List.all_eq_true.mp hlong _ hd
  cases cs with
  | nil => rw [symbol?, if_neg hc]
  | cons d cs => rw [symbol?, if_neg (hcd d), if_neg hc]

theorem ne_of_isNameChar {c d : Char} (hc : isNameChar c = true) (hd : isNameChar d = false) :
    c ≠ d := by
  rintro rfl
  exact Bool.noConfusion (hc.symm.trans hd)

theorem codeEnd?_of_isNameChar {c : Char} (h : isNameChar c = true) (cs : List Char) :
    codeEnd? false (c :: cs) = none := by
  have hmark : c ≠ '\x7d' := ne_of_isNameChar h rfl
  have hminus : c ≠ '-' := ne_of_isNameChar h rfl
  have hplus : c ≠ '+' := ne_of_isNameChar h rfl
  rcases cs with _ | ⟨d, _ | ⟨e, rest⟩⟩ <;> simp [codeEnd?, hmark, hminus, hplus]

/-- A name is taken as a whole. -/
theorem codeToken_name (hf : isNameStart first = true) (hm : ∀ c ∈ more, isNameChar c = true)
    {rest : List Char} (hr : ∀ c, rest.head? = some c → isNameChar c = false) :
    codeToken (first :: (more ++ rest)) = (.word (String.ofList (first :: more)), rest) := by
  have hfirst := isNameChar_of_isNameStart hf
  have hspan : (first :: (more ++ rest)).span isNameChar = (first :: more, rest) :=
    Decimal.span_append (List.forall_mem_cons.mpr ⟨hfirst, hm⟩) hr
  have hquote : ¬(first = '\'' ∨ first = '"') := by
    rintro (rfl | rfl) <;> cases hf
  have hdigit : first.isDigit = false := by
    rcases Bool.or_eq_true_iff.mp hf with ha | hu
    · by_contra hd
      rw [Decimal.not_isAlpha_of_isDigit (Bool.not_eq_false _ ▸ hd)] at ha
      cases ha
    · rw [beq_iff_eq.mp hu]
      rfl
  rw [codeToken, symbol?_of_isNameChar hfirst]
  dsimp only
  rw [if_neg hquote, hdigit, if_neg Bool.false_ne_true, if_pos hf, hspan]

theorem lineFeeds_name (hm : ∀ c ∈ more, isNameChar c = true) : lineFeeds more = 0 := by
  refine List.count_eq_zero.mpr fun hn => ?_
  cases hm _ hn

/-- The tokens of what follows a name at the start of an expression, from the point on. -/
def tokensBehindName (tail : List Char) : List Placed :=
  tokensFrom (1 + lineFeeds tail) (tail.length + 2) (.code false 0) 1 ('.' :: tail)

/-- An expression starts where its delimiter stands first. -/
theorem tokensFrom_open (last fuel line : Nat) (cs : List Char) :
    tokensFrom last (fuel + 1) (.text false) line ('\x7b' :: '\x7b' :: ' ' :: cs) =
      ⟨.exprStart, line⟩ :: tokensFrom last fuel (.code false 0) line (' ' :: cs) := by
  rw [tokensFrom]
  simp [splitText, openingSign, trimmed, textTokens, lineFeeds]

/-- A name behind a blank is a token. -/
theorem tokensFrom_name (hf : isNameStart first = true) (hm : ∀ c ∈ more, isNameChar c = true)
    {rest : List Char} (hr : ∀ c, rest.head? = some c → isNameChar c = false)
    (last fuel line : Nat) :
    tokensFrom last (fuel + 1) (.code false 0) line (' ' :: first :: (more ++ rest)) =
      ⟨.word (String.ofList (first :: more)), line⟩ ::
        tokensFrom last fuel (.code false 0) line rest := by
  have hfirst := isNameChar_of_isNameStart hf
  have hgap : isGap first = false := by
    by_contra hg
    rw [Bool.not_eq_false] at hg
    simp only [isGap, Bool.or_eq_true, beq_iff_eq] at hg
    rcases hg with (((rfl | rfl) | rfl) | rfl) | rfl <;> cases hf
  have hspan : (' ' :: first :: (more ++ rest)).span isGap = ([' '], first :: (more ++ rest)) :=
    Decimal.span_append (List.forall_mem_singleton.mpr rfl) (by simpa using hgap)
  have htaken : (first :: (more ++ rest)).take ((first :: (more ++ rest)).length - rest.length) =
      first :: more := by
    rw [show (first :: (more ++ rest)).length - rest.length = (first :: more).length by simp; omega]
    exact List.take_left
  have hlines : lineFeeds (first :: more) = 0 :=
    lineFeeds_name (List.forall_mem_cons.mpr ⟨hfirst, hm⟩)
  rw [tokensFrom, hspan]
  simp only [if_true, codeEnd?_of_isNameChar hfirst, codeToken_name hf hm hr, htaken, hlines]
  simp [lineFeeds, openBrackets]

/-- **What follows a name is read alike behind any name.** -/
theorem tokens_head (hf : isNameStart first = true) (hm : ∀ c ∈ more, isNameChar c = true)
    (tail : List Char) :
    tokens (String.ofList ('\x7b' :: '\x7b' :: ' ' :: first :: (more ++ '.' :: (tail ++ ['\x7d'])))) =
      ⟨.exprStart, 1⟩ :: ⟨.word (String.ofList (first :: more)), 1⟩ ::
        tokensBehindName (tail ++ ['\x7d']) := by
  have hend : dropLastLineEnd ('\x7b' :: '\x7b' :: ' ' :: first :: (more ++ '.' :: (tail ++ ['\x7d'])))
      = '\x7b' :: '\x7b' :: ' ' :: first :: (more ++ '.' :: (tail ++ ['\x7d'])) := by
    simp [dropLastLineEnd]
  have hlines : lineFeeds ('\x7b' :: '\x7b' :: ' ' :: first :: (more ++ '.' :: (tail ++ ['\x7d']))) =
      lineFeeds (tail ++ ['\x7d']) := by
    have hc : first ≠ '\n' := ne_of_isNameChar (isNameChar_of_isNameStart hf) rfl
    have := lineFeeds_name hm
    unfold lineFeeds at this ⊢
    simp [hc, this]
  have hpoint : ∀ c, ('.' :: (tail ++ ['\x7d'])).head? = some c → isNameChar c = false :=
    fun c hc => Option.some.inj hc ▸ rfl
  rw [tokens, String.toList_ofList, hend, hlines, tokensFrom_open, tokensFrom_name hf hm hpoint,
    tokensBehindName]
  rw [tokensFrom_fuel _ _ ((tail ++ ['\x7d']).length + 2) _ _ _ (by simp; omega) (by simp)]

end

end ChartRender.Template
