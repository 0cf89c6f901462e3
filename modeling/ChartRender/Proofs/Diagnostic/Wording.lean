import ChartRender.Proofs.Diagnostic.Causes
import ChartRender.Proofs.Text.Replace
/-!
# The wording of messages

The message of a fault is its text with three phrases replaced, wherever they occur: what only repeats
the category is left out, and an undefined value is called a variable. So what the kind of the fault
means becomes the headline of the message (`Diagnostic.headline`), which is meant; but the detail is
searched too. It is kept exactly if none of the phrases is in it
(`Diagnostic.message_keeps_detail_iff`), and where one is, the message need not hold the detail any more
(`Diagnostic.message_loses_detail`).

The parts of the text are reworded each on its own, as no phrase lies across the seams between them. The
one exception is the blank in front of the place, which may be the end of a phrase that the detail
ends in, and is therefore taken together with the detail (`Diagnostic.seam`).

That a text with a phrase in it comes out different is a matter of counting: each replacement takes away
one colon or one letter `u`, and none brings any (`Diagnostic.isPlain_of_marks`).

Key definitions: `Diagnostic.reworded`, `Diagnostic.IsPlain`, `Diagnostic.headline`,
`Diagnostic.Quotes`.
Key theorems: `Diagnostic.reworded_eq_self_iff`, `Diagnostic.reworded_append`,
`Diagnostic.infix_headline_append_iff`, `Diagnostic.message_keeps_detail_iff`.
-/

namespace ChartRender

open Template Text

namespace Diagnostic

/-! ### Rewording -/

/-- The phrases that are replaced in messages, in turn, and what they are replaced by. -/
def rewordings : List (List Char × List Char) :=
  [("invalid operation: ".toList, []), ("syntax error: ".toList, []),
    ("undefined value".toList, "undefined variable".toList)]

/-- A text after some replacements, one after the other. -/
def replaceAll (replacements : List (List Char × List Char)) (cs : List Char) : List Char :=
  replacements.foldl (fun cs r => replaceFrom r.1 r.2 0 cs) cs

/-- The characters of a text as they are in messages. -/
def reworded (cs : List Char) : List Char := replaceAll rewordings cs

theorem toList_wording (text : String) : (wording text).toList = reworded text.toList := by
  simp only [wording, toList_replace]
  rfl

theorem replaceAll_cons (r : List Char × List Char) (rest : List (List Char × List Char))
    (cs : List Char) : replaceAll (r :: rest) cs = replaceAll rest (replaceFrom r.1 r.2 0 cs) := rfl

theorem phrase_ne_nil : ∀ r ∈ rewordings, r.1 ≠ [] := by decide +kernel

/-- A text in which none of the phrases occurs. -/
def IsPlain (cs : List Char) : Prop := ∀ r ∈ rewordings, ¬ r.1 <:+: cs

instance (cs : List Char) : Decidable (IsPlain cs) :=
  inferInstanceAs (Decidable (∀ r ∈ rewordings, ¬ r.1 <:+: cs))

theorem IsPlain.mono {cs ds : List Char} (h : IsPlain ds) (hi : cs <:+: ds) : IsPlain cs :=
  fun r hr hc => h r hr (hc.trans hi)

/-! ### Plain texts -/

/-- How many colons and letters `u` there are in a text. -/
def marks (cs : List Char) : Nat := cs.countP fun c => c == ':' || c == 'u'

theorem marks_phrase : ∀ r ∈ rewordings, marks r.1 = marks r.2 + 1 := by decide +kernel

theorem marks_mono {cs ds : List Char} (h : cs <:+: ds) : marks cs ≤ marks ds :=
  h.sublist.countP_le

/-- Replacements that each take a mark away leave all marks only if there is nothing to replace. -/
theorem marks_replaceAll : ∀ (replacements : List (List Char × List Char)),
    (∀ r ∈ replacements, r.1 ≠ [] ∧ marks r.1 = marks r.2 + 1) → ∀ cs,
      marks (replaceAll replacements cs) ≤ marks cs ∧
      (marks cs ≤ marks (replaceAll replacements cs) → ∀ r ∈ replacements, ¬ r.1 <:+: cs)
  | [], _, _ => ⟨Nat.le_refl _, fun _ _ hr => absurd hr List.not_mem_nil⟩
  | r :: rest, h, cs => by
    obtain ⟨⟨hne, hmarks⟩, hrest⟩ := List.forall_mem_cons.mp h
    obtain ⟨n, hn, hcount⟩ := countP_replaceFrom hne r.2 cs
    have hfewer : marks (replaceFrom r.1 r.2 0 cs) + n = marks cs := by
      have hr : marks (replaceFrom r.1 r.2 0 cs) + n * marks r.1 = marks cs + n * marks r.2 :=
        hcount _
      rw [hmarks, Nat.mul_succ] at hr
      omega
    obtain ⟨hle, hsame⟩ := marks_replaceAll rest hrest (replaceFrom r.1 r.2 0 cs)
    rw [replaceAll_cons]
    refine ⟨by omega, fun hall => ?_⟩
    have hnot : ¬ r.1 <:+: cs := hn.mp (by omega)
    rw [replaceFrom_eq_self hne r.2 hnot] at hsame hall
    exact List.forall_mem_cons.mpr ⟨hnot, hsame hall⟩

/-- A text that keeps its colons and letters `u` is plain. -/
theorem isPlain_of_marks {cs : List Char} (h : marks cs ≤ marks (reworded cs)) : IsPlain cs :=
  (marks_replaceAll rewordings (fun r hr => ⟨phrase_ne_nil r hr, marks_phrase r hr⟩) cs).2 h

/-- A plain text stays as it is, whichever of the phrases are looked for. -/
theorem IsPlain.replaceAll_eq {cs : List Char} (h : IsPlain cs) :
    ∀ {phrases : List (List Char × List Char)}, phrases ⊆ rewordings → replaceAll phrases cs = cs
  | [], _ => rfl
  | r :: rest, hsub => by
    obtain ⟨hr, hrest⟩ := List.cons_subset.mp hsub
    rw [replaceAll_cons, replaceFrom_eq_self (phrase_ne_nil r hr) r.2 (h r hr),
      h.replaceAll_eq hrest]

/-- **Exactly the plain texts come out as they are.** -/
theorem reworded_eq_self_iff {cs : List Char} : reworded cs = cs ↔ IsPlain cs :=
  ⟨fun h => isPlain_of_marks (by rw [h]), fun h => h.replaceAll_eq (List.Subset.refl _)⟩

/-! ### Part by part -/

/-- A text that ends as a headline does, or is empty. No phrase lies across its end, since each one that
has a colon and a blank in it ends there. -/
def IsHead (cs : List Char) : Prop := cs = [] ∨ ": ".toList <:+ cs

instance (cs : List Char) : Decidable (IsHead cs) :=
  inferInstanceAs (Decidable (cs = [] ∨ ": ".toList <:+ cs))

theorem IsHead.not_liesAcross {front : List Char} (h : IsHead front) (back : List Char) :
    ∀ r ∈ rewordings, ¬ LiesAcross r.1 front back := by
  intro r hr
  rcases h with rfl | hfront
  · rintro ⟨s, t, hs, -, -, hsf, -⟩
    exact hs (List.suffix_nil.mp hsf)
  · have hends : ∀ r ∈ rewordings, ∀ n < r.1.length, 0 < n →
        ¬ r.1.take n <:+ ": ".toList ∧ ¬ ": ".toList <:+ r.1.take n := by decide +kernel
    exact not_liesAcross_of_ending hfront (hends r hr)

/-- Texts are put together before or after some of the phrases are replaced, if the first of them is a
head at every stage. -/
theorem replaceAll_append : ∀ {phrases : List (List Char × List Char)}, phrases ⊆ rewordings →
    ∀ {front : List Char}, (∀ earlier ∈ phrases.inits, IsHead (replaceAll earlier front)) →
      ∀ back, replaceAll phrases (front ++ back) = replaceAll phrases front ++ replaceAll phrases back
  | [], _, _, _, _ => rfl
  | r :: rest, hsub, front, hstages, back => by
    obtain ⟨hr, hrest⟩ := List.cons_subset.mp hsub
    rw [List.inits_cons, List.forall_mem_cons, List.forall_mem_map] at hstages
    have hfront : IsHead front := hstages.1
    have hlater := hstages.2
    rw [replaceAll_cons, replaceAll_cons, replaceAll_cons,
      replaceFrom_append (phrase_ne_nil r hr) r.2 (hfront.not_liesAcross back r hr),
      replaceAll_append hrest hlater]

theorem reworded_append_of_stages {front head : List Char}
    (hstages : ∀ earlier ∈ rewordings.inits, IsHead (replaceAll earlier front))
    (hhead : reworded front = head) (back : List Char) :
    reworded (front ++ back) = head ++ reworded back := by
  rw [← hhead]
  exact replaceAll_append (List.Subset.refl _) hstages back

/-- What stands behind a plain head is reworded on its own. -/
theorem reworded_append {front : List Char} (hhead : IsHead front) (hplain : IsPlain front)
    (back : List Char) : reworded (front ++ back) = front ++ reworded back := by
  refine reworded_append_of_stages (fun earlier hearlier => ?_) (reworded_eq_self_iff.mpr hplain) back
  rw [hplain.replaceAll_eq ((List.mem_inits _ _).mp hearlier).subset]
  exact hhead

theorem replaceAll_append_bracket :
    ∀ {phrases : List (List Char × List Char)}, phrases ⊆ rewordings → ∀ front back,
      replaceAll phrases (front ++ '(' :: back) =
        replaceAll phrases front ++ '(' :: replaceAll phrases back
  | [], _, _, _ => rfl
  | r :: rest, hsub, front, back => by
    have hbracket : ∀ r ∈ rewordings, '(' ∉ r.1 := by decide +kernel
    obtain ⟨hr, hrest⟩ := List.cons_subset.mp hsub
    rw [replaceAll_cons, replaceAll_cons, replaceAll_cons,
      replaceFrom_append_cons (phrase_ne_nil r hr) r.2 (hbracket r hr),
      replaceAll_append_bracket hrest]

/-- What stands in brackets is reworded on its own. -/
theorem reworded_append_bracket (front back : List Char) :
    reworded (front ++ '(' :: back) = reworded front ++ reworded ('(' :: back) := by
  have hsplit := replaceAll_append_bracket (List.Subset.refl rewordings)
  have hback : reworded ('(' :: back) = '(' :: reworded back := hsplit [] back
  rw [hback]
  exact hsplit front back

/-! ### Headlines -/

/-- What the kind of a fault becomes in front of the detail: nothing where the category says it, and
otherwise what it means, of a variable if the value is undefined. -/
def headline : FaultKind → String
  | .invalidOperation | .syntaxError => ""
  | .undefinedError => "undefined variable: "
  | kind => kind.description ++ ": "

theorem headline_cases (kind : FaultKind) : headline kind = kind.description ++ ": " ∨
    kind = .invalidOperation ∨ kind = .syntaxError ∨ kind = .undefinedError := by
  cases kind with
  | invalidOperation | syntaxError | undefinedError => exact Or.inr (by decide)
  | _ => exact Or.inl rfl

theorem isHead_headline (kind : FaultKind) : IsHead (headline kind).toList := by
  rcases headline_cases kind with h | rfl | rfl | rfl
  · rw [h, String.toList_append]
    exact Or.inr (List.suffix_append _ _)
  all_goals decide +kernel

theorem isPlain_headline (kind : FaultKind) : IsPlain (headline kind).toList := by
  cases kind <;> decide +kernel

/-- The meaning of the kind of a fault becomes the headline, and the rest is reworded on its own. -/
theorem reworded_description (kind : FaultKind) (back : List Char) :
    reworded ((kind.description ++ ": ").toList ++ back) =
      (headline kind).toList ++ reworded back := by
  rcases headline_cases kind with h | rfl | rfl | rfl
  · rw [← h]
    exact reworded_append (isHead_headline kind) (isPlain_headline kind) back
  all_goals exact reworded_append_of_stages (by decide +kernel) (by decide +kernel) back

/-! ### Details behind headlines -/

/-- A text that starts a plain head with the text itself, reworded, behind it is plain. -/
theorem isPlain_of_prefix {head : List Char} (hhead : ": ".toList <:+ head) (hplain : IsPlain head)
    (cs : List Char) (h : cs <+: head ++ reworded cs) : IsPlain cs := by
  induction hn : cs.length using Nat.strong_induction_on generalizing cs with
  | h n ih =>
    rcases List.prefix_or_prefix_of_prefix h (List.prefix_append head _) with hcs | ⟨rest, rfl⟩
    · exact hplain.mono hcs.isInfix
    · have hreworded := reworded_append (Or.inr hhead) hplain rest
      have hpos : 0 < head.length := List.length_pos_of_ne_nil fun hnil => by
        rw [hnil] at hhead
        exact absurd (List.suffix_nil.mp hhead) (by decide)
      rw [hreworded, List.prefix_append_right_inj] at h
      -- The text repeats the head, and behind that it has to go on in the same way.
      have hrest : IsPlain rest := by
        refine ih rest.length ?_ rest ?_ rfl
        · rw [← hn, List.length_append]
          omega
        · exact h
      rw [← reworded_eq_self_iff, hreworded, reworded_eq_self_iff.mpr hrest]

/-- The end of a headline has none of the marks unless it is a head itself. -/
theorem marks_of_suffix_headline {kind : FaultKind} {cs : List Char}
    (h : cs <:+ (headline kind).toList) (hcs : ¬ ": ".toList <:+ cs) : marks cs = 0 := by
  rcases isHead_headline kind with hnil | hend
  · rw [hnil, List.suffix_nil] at h
    rw [h]
    rfl
  · have htails : ∀ tail ∈ ": ".toList.tails, ": ".toList <:+ tail ∨ marks tail = 0 := by
      decide +kernel
    have hsuffix : cs <:+ ": ".toList :=
      (List.suffix_or_suffix_of_suffix h hend).resolve_right hcs
    exact (htails cs ((List.mem_tails _ _).mpr hsuffix)).resolve_left hcs

/-- **A text is kept behind a headline exactly if it is plain.** One that is not has lost a colon or a
letter `u`, so that it would have to begin in the headline, and to go on with it over and over. -/
theorem infix_headline_append_iff {kind : FaultKind} {cs : List Char} :
    cs <:+: (headline kind).toList ++ reworded cs ↔ IsPlain cs := by
  constructor
  · intro h
    rcases List.infix_append_iff.mp h with hhead | hcs | ⟨front, back, rfl, hfront, hback⟩
    · exact (isPlain_headline kind).mono hhead
    · exact isPlain_of_marks (marks_mono hcs)
    · by_cases hend : ": ".toList <:+ front
      · exact isPlain_of_prefix hend ((isPlain_headline kind).mono hfront.isInfix) _
          ((List.prefix_append_right_inj front).mpr hback)
      · refine isPlain_of_marks ?_
        calc marks (front ++ back)
            = marks front + marks back := List.countP_append
          _ = marks back := by rw [marks_of_suffix_headline hfront hend, Nat.zero_add]
          _ ≤ marks (reworded (front ++ back)) := marks_mono hback.isInfix
  · intro h
    rw [reworded_eq_self_iff.mpr h]
    exact (List.suffix_append _ _).isInfix

/-! ### Messages -/

/-- What stands between the detail and the place. -/
def seam : Option Place → String
  | none => ""
  | some _ => " "

/-- The place in words. -/
def locus : Option Place → String
  | none => ""
  | some place => "(in " ++ place.template ++ ":" ++ toString place.line ++ ")"

theorem text_of_detail {fault : Fault} {detail : String} (h : fault.detail = some detail) :
    fault.text = fault.kind.description ++ ": " ++ (detail ++ seam fault.place) ++ locus fault.place := by
  obtain ⟨kind, _, place, causes⟩ := fault
  cases h
  cases place with
  | none => simp [Fault.text, seam, locus, String.append_assoc]
  | some place =>
    simp only [Fault.text, seam, locus, String.append_assoc]
    rfl

theorem reworded_append_locus (front : List Char) (place : Option Place) :
    reworded (front ++ (locus place).toList) = reworded front ++ reworded (locus place).toList := by
  cases place with
  | none =>
    have hnone : (locus none).toList = [] := rfl
    rw [hnone, List.append_nil]
    exact (List.append_nil _).symm
  | some place =>
    simp only [locus, String.toList_append, List.append_assoc]
    exact reworded_append_bracket front _

/-- **A message is the headline, the detail and the place**, the last two each reworded on its own. -/
theorem wording_text {fault : Fault} {detail : String} (h : fault.detail = some detail) :
    wording fault.text =
      headline fault.kind ++ wording (detail ++ seam fault.place) ++ wording (locus fault.place) := by
  apply String.toList_injective
  calc (wording fault.text).toList
      = reworded ((fault.kind.description ++ ": ").toList ++
          ((detail ++ seam fault.place).toList ++ (locus fault.place).toList)) := by
        rw [toList_wording, text_of_detail h, String.toList_append, String.toList_append,
          List.append_assoc]
    _ = (headline fault.kind).toList ++ (reworded (detail ++ seam fault.place).toList ++
          reworded (locus fault.place).toList) := by
        rw [reworded_description, reworded_append_locus]
    _ = (headline fault.kind ++ wording (detail ++ seam fault.place) ++
          wording (locus fault.place)).toList := by
        simp only [String.toList_append, toList_wording, List.append_assoc]

/-! ### Messages and details -/

/-- A diagnostic that tells a detail word by word. -/
def Quotes (d : Diagnostic) (detail : String) : Prop := detail.toList <:+: d.message.toList

instance (d : Diagnostic) (detail : String) : Decidable (Quotes d detail) :=
  inferInstanceAs (Decidable (detail.toList <:+: d.message.toList))

/-- **A message keeps the detail exactly if none of the phrases is in it.** Behind a headline that only
says what the kind of the fault means, the detail stands reworded, and stays as it is exactly if it is
plain, with the blank in front of the place. Then the message holds it, and without a place the message
holds no other one. -/
theorem message_keeps_detail_iff {fault : Fault} {detail : String}
    (hfailure : ∀ f, Cause.failure f ∉ fault.causes) (hdetail : fault.detail = some detail)
    (name source : String) :
    (ofFault fault name source).message =
      headline fault.kind ++ wording (detail ++ seam fault.place) ++ wording (locus fault.place) ∧
    (wording (detail ++ seam fault.place) = detail ++ seam fault.place ↔
      IsPlain (detail ++ seam fault.place).toList) ∧
    (IsPlain (detail ++ seam fault.place).toList → Quotes (ofFault fault name source) detail) ∧
    (fault.place = none → Quotes (ofFault fault name source) detail → IsPlain detail.toList) := by
  have hmessage : (ofFault fault name source).message =
      headline fault.kind ++ wording (detail ++ seam fault.place) ++
        wording (locus fault.place) := by
    rw [ofFault_of_no_failure (Fault.failure?_eq_none_iff.mpr hfailure)]
    exact wording_text hdetail
  have hkept : wording (detail ++ seam fault.place) = detail ++ seam fault.place ↔
      IsPlain (detail ++ seam fault.place).toList := by
    rw [← reworded_eq_self_iff, ← toList_wording, String.toList_inj]
  refine ⟨hmessage, hkept, fun hplain => ?_, fun hplace hquotes => ?_⟩
  · rw [Quotes, hmessage, hkept.mpr hplain]
    simp only [String.toList_append, List.append_assoc]
    exact List.infix_append' _ _ _
  · rw [Quotes, hmessage, hplace] at hquotes
    have hplaceless : (headline fault.kind ++ wording (detail ++ seam none) ++
        wording (locus none)).toList = (headline fault.kind).toList ++ reworded detail.toList := by
      have hempty : wording "" = "" := by decide +kernel
      rw [seam, locus, hempty, String.append_empty, String.append_empty, String.toList_append,
        toList_wording]
    rw [hplaceless] at hquotes
    exact infix_headline_append_iff.mp hquotes

/-- A template that is not found is told of as it is written. -/
theorem message_keeps_detail_iff_notFound :
    Quotes (ofFault ⟨.templateNotFound, some "no template \"a\"", some ⟨"t", 1⟩, []⟩ "t" "")
      "no template \"a\"" :=
  (message_keeps_detail_iff (fun f hf => absurd hf List.not_mem_nil) rfl "t" "").2.2.1
    (by decide +kernel)

/-- Not every message holds the detail of its fault: what is written in a template may be one of the
phrases. -/
theorem message_loses_detail :
    ¬ ∀ (fault : Fault) (detail name source : String), (∀ f, Cause.failure f ∉ fault.causes) →
      fault.detail = some detail → Quotes (ofFault fault name source) detail := by
  intro h
  have hquotes := h ⟨.templateNotFound, some "tried to include non-existing template \"undefined value\"",
    some ⟨"test.yaml", 1⟩, []⟩ _ "test.yaml" "\x7b% include 'undefined value' %\x7d"
    (fun f hf => absurd hf List.not_mem_nil) rfl
  revert hquotes
  decide +kernel

end Diagnostic
end ChartRender
