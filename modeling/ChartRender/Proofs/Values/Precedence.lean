import ChartRender.Proofs.Result
import ChartRender.Proofs.Text.Split
import ChartRender.Proofs.Value.Layers
import ChartRender.Proofs.Values.Override
/-!
# The last override wins

Overrides are written one after the other into an empty map, and a write behind or in front of an
earlier one destroys it. What an override wrote is still there at the end if the path of no later one
lies on its way or behind it, whatever came before; and where no override leads there is nothing
(`Values.LastWins`). Overrides fail as the first of them that cannot be read, be it that it has no `=`
or that a key before the `=` is empty (`Values.Refused`).

What the right side of an override stands for does not depend on the order in which the readings are
tried: no word is a numeral, and no numeral starts like a collection (`Values.denotes_iff`).

Key definitions: `KeyPath.Apart`, `Values.CutsInto`, `Values.Refused`, `Values.Denotes`,
`Values.LastWins`.
Key theorems: `Value.get?_setAll_of_apart`, `Value.get?_setAll_last`, `Values.denotes_iff`,
`Values.assignment_eq_error_iff`, `Values.ofOverrides_lastWins`.
-/

namespace ChartRender

/-! ### Writes one after the other -/

/-- Neither of two paths is a front part of the other. -/
def KeyPath.Apart (p q : KeyPath) : Prop := ¬ p <+: q ∧ ¬ q <+: p

instance (p q : KeyPath) : Decidable (p.Apart q) :=
  inferInstanceAs (Decidable (¬ p <+: q ∧ ¬ q <+: p))

namespace Value

theorem setAll_cons (v : Value) (a : KeyPath × Value) (as : List (KeyPath × Value)) :
    v.setAll (a :: as) = (v.set a.2 a.1).setAll as := rfl

/-- Assignments to paths apart from a place do not change what is there. -/
theorem get?_setAll_of_apart {place : KeyPath} : ∀ {as : List (KeyPath × Value)} (v : Value),
    (∀ a ∈ as, a.1.Apart place) → (v.setAll as).get? place = v.get? place
  | [], _, _ => rfl
  | a :: as, v, h => by
    obtain ⟨⟨hfront, hback⟩, h⟩ := List.forall_mem_cons.mp h
    rw [setAll_cons, get?_setAll_of_apart _ h, get?_set_of_fork a.2 v hfront hback]

/-- **What is assigned stays** if nothing is assigned later on the way to it or behind it. -/
theorem get?_setAll_last {a : KeyPath × Value} {back : List (KeyPath × Value)}
    (h : ∀ b ∈ back, b.1.Apart a.1) (front : List (KeyPath × Value)) (v : Value) :
    (v.setAll (front ++ a :: back)).get? a.1 = some a.2 := by
  have hsplit : v.setAll (front ++ a :: back) = ((v.setAll front).set a.2 a.1).setAll back :=
    List.foldl_append
  have hset := get?_set_append a.2 [] a.1 (v.setAll front)
  rw [List.append_nil] at hset
  rw [hsplit, get?_setAll_of_apart _ h, hset, get?_root]

end Value

namespace Values

/-! ### The right side -/

/-- A text that starts like a JSON array or object. -/
def OpensCollection (text : String) : Prop :=
  ∃ rest, text.toList = '[' :: rest ∨ text.toList = '{' :: rest

/-- The right sides that are words of their own. -/
def words : List String := ["true", "false", "null"]

/-- What the right side of an override stands for: that of a word, a finite number, a JSON array or
object, and else the text itself. -/
inductive Denotes : String → Value → Prop
  | yes : Denotes "true" (.bool true)
  | no : Denotes "false" (.bool false)
  | null : Denotes "null" .null
  | number {text : String} {x : Binary64} (h : Binary64.ofText? text = some x)
      (hx : x.isFinite = true) : Denotes text (.number x)
  | collection {text : String} {j : Json} (h : OpensCollection text) (hj : Json.parse? text = some j) :
      Denotes text j.toValue
  | text {text : String} (hw : text ∉ words)
      (hn : ∀ x, Binary64.ofText? text = some x → x.isFinite = false)
      (hj : OpensCollection text → Json.parse? text = none) : Denotes text (.string text)

section
variable {text : String}

theorem ofNumberText?_of_finite {x : Binary64} (h : Binary64.ofText? text = some x)
    (hx : x.isFinite = true) : ofNumberText? text = some (.number x) := by
  simp [ofNumberText?, h, Option.filter, hx]

theorem ofNumberText?_eq_none_iff : ofNumberText? text = none ↔
    ∀ x, Binary64.ofText? text = some x → x.isFinite = false := by
  cases h : Binary64.ofText? text with
  | none => simp [ofNumberText?, h]
  | some x => simp [ofNumberText?, h, Option.filter]

theorem ofCollectionText?_of_opens (h : OpensCollection text) :
    ofCollectionText? text = (Json.parse? text).map Json.toValue := by
  obtain ⟨rest, h | h⟩ := h <;> simp [ofCollectionText?, h]

theorem ofCollectionText?_of_not_opens (h : ¬ OpensCollection text) :
    ofCollectionText? text = none := by
  unfold ofCollectionText?
  split
  · rename_i rest hr
    exact absurd ⟨rest, Or.inl hr⟩ h
  · rename_i rest hr
    exact absurd ⟨rest, Or.inr hr⟩ h
  · rfl

/-- What starts like a collection is no numeral. -/
theorem ofText?_of_opens (h : OpensCollection text) : Binary64.ofText? text = none := by
  obtain ⟨rest, h | h⟩ := h <;> rw [Binary64.ofText?, h] <;> rfl

theorem ofText?_of_word : ∀ word ∈ words, Binary64.ofText? word = none := by decide +kernel

theorem not_opens_of_word : ∀ word ∈ words, ¬ OpensCollection word := by
  simp [words, OpensCollection]

theorem ofOverrideText_of_not_word (h : text ∉ words) : ofOverrideText text =
    (ofNumberText? text).getD ((ofCollectionText? text).getD (.string text)) := by
  obtain ⟨htrue, hfalse, hnull⟩ : text ≠ "true" ∧ text ≠ "false" ∧ text ≠ "null" := by
    simpa [words] using h
  rw [ofOverrideText, if_neg htrue, if_neg hfalse, if_neg hnull]
  cases ofNumberText? text <;> rfl

theorem denotes_ofOverrideText (text : String) : Denotes text (ofOverrideText text) := by
  by_cases hword : text ∈ words
  · obtain rfl | rfl | rfl : text = "true" ∨ text = "false" ∨ text = "null" := by
      simpa [words] using hword
    · exact .yes
    · exact .no
    · exact .null
  rw [ofOverrideText_of_not_word hword]
  cases hn : ofNumberText? text with
  | some v =>
    obtain ⟨x, hx, rfl⟩ := Option.map_eq_some_iff.mp hn
    obtain ⟨hx, hfinite⟩ := Option.filter_eq_some_iff.mp hx
    exact .number hx hfinite
  | none =>
    rw [ofNumberText?_eq_none_iff] at hn
    by_cases hopens : OpensCollection text
    · rw [ofCollectionText?_of_opens hopens]
      cases hj : Json.parse? text with
      | some j => exact .collection hopens hj
      | none => exact .text hword hn fun _ => hj
    · rw [ofCollectionText?_of_not_opens hopens]
      exact .text hword hn fun h => absurd h hopens

/-- **A right side stands for one value**, the one that it is read as. -/
theorem denotes_iff {v : Value} : Denotes text v ↔ ofOverrideText text = v := by
  refine ⟨fun h => ?_, fun h => h ▸ denotes_ofOverrideText text⟩
  cases h with
  | yes => rfl
  | no => rfl
  | null => rfl
  | number h hx =>
    have hword : text ∉ words := fun hw => by simp [ofText?_of_word text hw] at h
    rw [ofOverrideText_of_not_word hword, ofNumberText?_of_finite h hx]
    rfl
  | collection h hj =>
    have hword : text ∉ words := fun hw => not_opens_of_word text hw h
    have hnumber : ofNumberText? text = none :=
      ofNumberText?_eq_none_iff.mpr (by simp [ofText?_of_opens h])
    rw [ofOverrideText_of_not_word hword, hnumber, ofCollectionText?_of_opens h, hj]
    rfl
  | text hw hn hj =>
    rw [ofOverrideText_of_not_word hw, ofNumberText?_eq_none_iff.mpr hn]
    by_cases hopens : OpensCollection text
    · rw [ofCollectionText?_of_opens hopens, hj hopens]
      rfl
    · rw [ofCollectionText?_of_not_opens hopens]
      rfl

end

/-! ### Overrides that are refused -/

/-- The two sides of the first `=` of an override. -/
structure CutsInto (argument path text : String) : Prop where
  whole : argument = path ++ "=" ++ text
  first : '=' ∉ path.toList

/-- Why a text is no override. -/
inductive Refused (argument : String) : ValuesError → Prop
  | missingEquals (h : '=' ∉ argument.toList) : Refused argument (.missingEquals argument)
  | invalidPath {path text : String} (h : CutsInto argument path text)
      (hk : "" ∈ KeyPath.ofText path) : Refused argument (.invalidPath path)

section
variable {argument path text : String}

theorem cutsInto_iff : CutsInto argument path text ↔
    Text.splitFirst? '=' argument.toList = some (path.toList, text.toList) := by
  rw [Text.splitFirst?_eq_some_iff]
  constructor
  · rintro ⟨rfl, hfirst⟩
    exact ⟨by simp, hfirst⟩
  · rintro ⟨hwhole, hfirst⟩
    exact ⟨String.toList_inj.mp (by simpa using hwhole), hfirst⟩

theorem CutsInto.unique {path' text' : String} (h : CutsInto argument path text)
    (h' : CutsInto argument path' text') : path = path' ∧ text = text' := by
  have hcut := (cutsInto_iff.mp h).symm.trans (cutsInto_iff.mp h')
  simp only [Option.some.injEq, Prod.mk.injEq, String.toList_inj] at hcut
  exact hcut

/-- An override is read at the two sides of its first `=`. -/
theorem assignment_of_cutsInto (h : CutsInto argument path text) : assignment argument =
    if "" ∈ KeyPath.ofText path then .error (.invalidPath path)
    else .ok (path, ofOverrideText text) := by
  simp only [assignment, cutsInto_iff.mp h, String.ofList_toList, List.any_eq_true, beq_iff_eq,
    exists_eq_right]

theorem assignment_of_no_equals (h : '=' ∉ argument.toList) :
    assignment argument = .error (.missingEquals argument) := by
  simp only [assignment, Text.splitFirst?_eq_none_iff.mpr h]

theorem exists_cutsInto (h : '=' ∈ argument.toList) : ∃ path text, CutsInto argument path text := by
  obtain ⟨front, back, hab, hf⟩ := List.eq_append_cons_of_mem h
  refine ⟨String.ofList front, String.ofList back, cutsInto_iff.mpr ?_⟩
  rw [String.toList_ofList, String.toList_ofList, Text.splitFirst?_eq_some_iff]
  exact ⟨hab, hf⟩

/-- **An override fails for the reason for which it is refused**, and for no other. -/
theorem assignment_eq_error_iff {e : ValuesError} :
    assignment argument = .error e ↔ Refused argument e := by
  constructor
  · intro h
    by_cases heq : '=' ∈ argument.toList
    · obtain ⟨path, text, hcut⟩ := exists_cutsInto heq
      rw [assignment_of_cutsInto hcut] at h
      split_ifs at h with hk
      obtain rfl := Except.error.inj h
      exact .invalidPath hcut hk
    · rw [assignment_of_no_equals heq] at h
      obtain rfl := Except.error.inj h
      exact .missingEquals heq
  · rintro (h | ⟨hcut, hk⟩)
    · exact assignment_of_no_equals h
    · rw [assignment_of_cutsInto hcut, if_pos hk]

theorem CutsInto.not_refused (h : CutsInto argument path text) (hk : "" ∉ KeyPath.ofText path)
    (e : ValuesError) : ¬ Refused argument e := by
  rw [← assignment_eq_error_iff, assignment_of_cutsInto h, if_neg hk]
  simp

theorem exists_assignment (h : ∀ e, ¬ Refused argument e) : ∃ a, assignment argument = .ok a := by
  cases ha : assignment argument with
  | error e => exact absurd (assignment_eq_error_iff.mp ha) (h e)
  | ok a => exact ⟨a, rfl⟩

/-- What is assigned by an override that is read. -/
theorem cutsInto_of_assignment {a : String × Value} (h : assignment argument = .ok a) :
    ∃ text, CutsInto argument a.1 text ∧ Denotes text a.2 := by
  obtain ⟨path, text, hsplit, -, rfl⟩ := eq_of_assignment h
  refine ⟨String.ofList text, cutsInto_iff.mpr ?_, denotes_ofOverrideText _⟩
  rw [String.toList_ofList, String.toList_ofList, hsplit]

theorem eq_of_cutsInto {a : String × Value} (h : CutsInto argument path text)
    (ha : assignment argument = .ok a) : a = (path, ofOverrideText text) := by
  rw [assignment_of_cutsInto h] at ha
  split_ifs at ha
  exact (Except.ok.inj ha).symm

end

/-! ### What overrides make -/

/-- Values in which the last of the overrides wins. -/
structure LastWins (arguments : List String) (values : Value) : Prop where
  isMap : ∃ fields, values = .map fields
  /-- An override is still there if no later one was made on the way to it or behind it. -/
  last : ∀ front argument back path text, arguments = front ++ argument :: back →
    CutsInto argument path text →
    (∀ later ∈ back, ∀ path' text', CutsInto later path' text' →
      (KeyPath.ofText path').Apart (KeyPath.ofText path)) →
    ∃ v, Denotes text v ∧ get? values path = some v
  /-- There is nothing but on the way to an override and behind it. -/
  absent : ∀ place, (∀ argument ∈ arguments, ∀ path text, CutsInto argument path text →
    (KeyPath.ofText path).Apart (KeyPath.ofText place)) → get? values place = none

theorem lastWins_setAll {arguments : List String} {as : List (String × Value)}
    (h : arguments.mapM assignment = .ok as) :
    LastWins arguments (Value.empty.setAll (as.map keyed)) where
  isMap := by
    have hroot : ∀ a ∈ as.map keyed, a.1 ≠ [] := by
      rw [List.forall_mem_map]
      exact fun a _ => KeyPath.ofText_ne_nil a.1
    have hm := Value.map?_setAll_ne_none hroot
    obtain hn | hf := Value.not_map_or (Value.empty.setAll (as.map keyed))
    · exact absurd hn hm
    · exact hf
  last front argument back path text hsplit hcut hlater := by
    subst hsplit
    obtain ⟨fs, a, bs, ha, hbs, rfl⟩ := mapM_split h
    obtain rfl := eq_of_cutsInto hcut ha
    refine ⟨ofOverrideText text, denotes_ofOverrideText text, ?_⟩
    rw [List.map_append, List.map_cons]
    refine Value.get?_setAll_last (a := keyed (path, ofOverrideText text)) ?_ _ _
    rw [List.forall_mem_map]
    intro b hb
    obtain ⟨later, hmem, hb⟩ := exists_of_mem_mapM hbs b hb
    obtain ⟨text', hcut', -⟩ := cutsInto_of_assignment hb
    exact hlater later hmem b.1 text' hcut'
  absent place hapart := by
    have hall : ∀ a ∈ as.map keyed, a.1.Apart (KeyPath.ofText place) := by
      rw [List.forall_mem_map]
      intro a ha
      obtain ⟨argument, hmem, ha⟩ := exists_of_mem_mapM h a ha
      obtain ⟨text, hcut, -⟩ := cutsInto_of_assignment ha
      exact hapart argument hmem a.1 text hcut
    rw [get?, Value.get?_setAll_of_apart _ hall]
    cases hp : KeyPath.ofText place with
    | nil => exact absurd hp (KeyPath.ofText_ne_nil place)
    | cons key rest => rfl

/-- **The last override wins.** Overrides fail exactly if one of them is refused, as the first one that
is; else they make a map in which every override that no later one touches has its value, and in which
there is nothing where no override leads. -/
theorem ofOverrides_lastWins (arguments : List String) :
    ((∃ e, ofOverrides arguments = .error e) ↔ ∃ argument ∈ arguments, ∃ e, Refused argument e) ∧
    (∀ front argument back e, arguments = front ++ argument :: back →
      (∀ a ∈ front, ∀ e', ¬ Refused a e') → Refused argument e →
      ofOverrides arguments = .error e) ∧
    ((∀ argument ∈ arguments, ∀ e, ¬ Refused argument e) →
      ∃ values, ofOverrides arguments = .ok values ∧ LastWins arguments values) := by
  refine ⟨⟨?_, ?_⟩, ?_, ?_⟩
  · rintro ⟨e, he⟩
    rw [ofOverrides_eq] at he
    cases hm : arguments.mapM assignment with
    | ok as =>
      rw [hm] at he
      cases he
    | error e' =>
      obtain ⟨argument, hmem, ha⟩ := mapM_eq_error hm
      exact ⟨argument, hmem, e', assignment_eq_error_iff.mp ha⟩
  · rintro ⟨argument, hmem, e, he⟩
    cases hm : arguments.mapM assignment with
    | ok as =>
      obtain ⟨a, ha⟩ := forall_ok_of_mapM hm argument hmem
      rw [assignment_eq_error_iff.mpr he] at ha
      cases ha
    | error e' =>
      rw [ofOverrides_eq, hm]
      exact ⟨e', rfl⟩
  · rintro front argument back e rfl hfront he
    have hm := mapM_first_error (assignment_eq_error_iff.mpr he) back
      fun a ha => exists_assignment (hfront a ha)
    rw [ofOverrides_eq, hm]
    rfl
  · intro h
    obtain ⟨as, hm⟩ := exists_mapM_of_forall fun a ha => exists_assignment (h a ha)
    rw [ofOverrides_eq, hm]
    exact ⟨_, rfl, lastWins_setAll hm⟩

/-- A field is written into what was a text before, and its number is too large to be one. -/
theorem ofOverrides_lastWins_image : ∃ values,
    ofOverrides ["image=nginx", "image.tag=1e999"] = .ok values ∧
      get? values "image.tag" = some (.string "1e999") ∧ get? values "port" = none := by
  have himage : CutsInto "image=nginx" "image" "nginx" := ⟨by decide, by decide⟩
  have htag : CutsInto "image.tag=1e999" "image.tag" "1e999" := ⟨by decide, by decide⟩
  have hnumber : Denotes "1e999" (.string "1e999") := denotes_iff.mpr (by decide +kernel)
  obtain ⟨values, hvalues, hwins⟩ := (ofOverrides_lastWins ["image=nginx", "image.tag=1e999"]).2.2
    (List.forall_mem_cons.mpr ⟨himage.not_refused (by decide +kernel),
      List.forall_mem_singleton.mpr (htag.not_refused (by decide +kernel))⟩)
  refine ⟨values, hvalues, ?_, ?_⟩
  · obtain ⟨v, hv, hget⟩ := hwins.last ["image=nginx"] _ [] _ _ rfl htag (by simp)
    rw [hget, ← denotes_iff.mp hv, denotes_iff.mp hnumber]
  · refine hwins.absent "port" (List.forall_mem_cons.mpr
      ⟨fun path text hcut => ?_, List.forall_mem_singleton.mpr fun path text hcut => ?_⟩)
    · obtain ⟨rfl, -⟩ := hcut.unique himage
      decide +kernel
    · obtain ⟨rfl, -⟩ := hcut.unique htag
      decide +kernel

end Values
end ChartRender
