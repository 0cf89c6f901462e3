import ChartRender.Proofs.Builtin.Application
import ChartRender.Proofs.Value.Canonical
/-!
# Builtins and equality

No builtin sees in which order the keys of a map came, or which sign a zero has: applied to equal
arguments without integers it fails in the same way, or gives equal results (`Builtin.apply_congr`).
Each question that a builtin asks of an argument has the same answer for an equal one. In particular
data is not told from its canonical value (`Builtin.apply_canonical`). An integer, on the other
hand, is told from the number that it is equal to: their kinds have different names.

Key definitions: `Value.SameData`, `Builtin.SameOutcome`.
Key theorems: `Value.SameData.pointsToSame`, `TypeName.accepts_congr`, `Builtin.apply_congr`,
`Builtin.call_of_equal`, `Builtin.apply_canonical`.
-/

namespace ChartRender
namespace Value

/-- Two equal values without integers, in which no key stands twice. -/
structure SameData (v w : Value) : Prop where
  equals : v.equals w = true
  intFree : v.isIntFree = true
  intFree' : w.isIntFree = true
  distinct : v.HasDistinctKeys
  distinct' : w.HasDistinctKeys

/-- How the same data looks: equal values without integers are of one kind. -/
inductive Alike : Value → Value → Prop
  | null : Alike .null .null
  | bool (b : Bool) : Alike (.bool b) (.bool b)
  | string (s : String) : Alike (.string s) (.string s)
  | number {x y : Binary64} (h : (x == y) = true) : Alike (.number x) (.number y)
  | list {vs ws : List Value} (h : List.Forall₂ (fun v w => v.equals w = true) vs ws) :
      Alike (.list vs) (.list ws)
  | map {fs gs : Fields} (h : ∀ k, Option.Rel (fun v w => v.equals w = true) (Fields.get? fs k)
      (Fields.get? gs k)) : Alike (.map fs) (.map gs)

namespace SameData

variable {v w : Value}

theorem alike (h : SameData v w) : Alike v w := by
  have he := h.equals
  cases v with
  | null => exact equals_null_iff.mp he ▸ .null
  | bool b => exact equals_bool_iff.mp he ▸ .bool b
  | string s => exact equals_string_iff.mp he ▸ .string s
  | int i => simpa [isIntFree] using h.intFree
  | number x =>
    rcases equals_number_iff.mp he with ⟨y, rfl, hxy⟩ | ⟨i, rfl, -⟩
    · exact .number hxy
    · simpa [isIntFree] using h.intFree'
  | list vs =>
    obtain ⟨ws, rfl, hvw⟩ := equals_list_iff.mp he
    exact .list hvw
  | map fs =>
    obtain ⟨gs, rfl, hfg⟩ :=
      (equals_map_iff (hasDistinctKeys_map.mp h.distinct).1 h.distinct').mp he
    exact .map hfg

/-! ### Questions -/

theorem kindName (h : SameData v w) : v.kindName = w.kindName := by
  cases h.alike <;> rfl

theorem isNull (h : SameData v w) : v.isNull = w.isNull := by
  cases h.alike <;> rfl

theorem toText (h : SameData v w) : v.toText = w.toText := by
  cases h.alike <;> rfl

theorem isIntegralNumber (h : SameData v w) : v.isIntegralNumber = w.isIntegralNumber := by
  cases h.alike with
  | number hxy => exact Binary64.isIntegral_of_beq hxy
  | _ => rfl

/-- What is found in equal maps under a key is equal. -/
theorem get?_fields (h : SameData v w) (key : String) :
    Option.Rel (fun v w => v.equals w = true) (Fields.get? v.fields key)
      (Fields.get? w.fields key) := by
  cases h.alike with
  | map hfg => exact hfg key
  | _ => exact .none

theorem length (h : SameData v w) : v.length = w.length := by
  have he := h.equals
  cases h.alike with
  | list hvw => exact hvw.length_eq
  | map _ =>
    rw [Value.equals, Bool.and_eq_true, beq_iff_eq] at he
    exact he.1
  | _ => rfl

theorem symm (h : SameData v w) : SameData w v :=
  ⟨equals_symm v w h.distinct h.distinct' h.equals, h.intFree', h.intFree, h.distinct', h.distinct⟩

theorem trans {u : Value} (h : SameData v w) (h' : SameData w u) : SameData v u where
  equals := equals_trans v w u h.intFree h.distinct h.distinct' h'.distinct' h.equals h'.equals
  intFree := h.intFree
  intFree' := h'.intFree'
  distinct := h.distinct
  distinct' := h'.distinct'

/-- **Pointers to the same data point to the same.** -/
theorem pointsToSame {u t : Value} (h : SameData v w) (h' : SameData u t) :
    v.pointsToSame u = w.pointsToSame t := by
  have he : v.equals u = w.equals t := by
    rw [Bool.eq_iff_iff]
    constructor
    · intro he
      have hvu : SameData v u := ⟨he, h.intFree, h'.intFree, h.distinct, h'.distinct⟩
      exact (h.symm.trans (hvu.trans h')).equals
    · intro he
      have hwt : SameData w t := ⟨he, h.intFree', h'.intFree', h.distinct', h'.distinct'⟩
      exact (h.trans (hwt.trans h'.symm)).equals
  change (if (v.isNull && u.isNull) = true then true else v.equals u) = _
  rw [h.isNull, h'.isNull, he]
  rfl

end SameData

theorem isIntFree_of_isData (v : Value) : IsData v → v.isIntFree = true := by
  induction v using Value.induction with
  | int i => exact fun h => absurd h (not_isData_int i)
  | list items ih => exact fun h => isIntFree_list.mpr fun v hv => ih v hv (h.of_mem_list hv)
  | map fields ih => exact fun h => isIntFree_map.mpr fun p hp => ih p hp (h.of_mem_map hp)
  | _ => exact fun _ => rfl

theorem IsData.sameData_canonical {v : Value} (h : IsData v) : SameData v.canonical v where
  equals := (equals_iff_canonical _ _ (isData_canonical v) h).mpr (canonical_canonical v)
  intFree := isIntFree_of_isData _ (isData_canonical v)
  intFree' := isIntFree_of_isData v h
  distinct := hasDistinctKeys_canonical v
  distinct' := h.distinct

/-! ### Results -/

theorem equals_pair {v w : Value} (h : v.equals w = true) (ok : Bool) :
    (pair (v, ok)).equals (pair (w, ok)) = true := by
  simp [pair, equals, equalsAll, h]

/-- Maps with the same keys in the same order are equal if their values are. -/
theorem equals_map_of_forall₂ {fs gs : Fields} (hg : (Fields.keys gs).Nodup)
    (h : List.Forall₂ (fun p q => p.1 = q.1 ∧ p.2.equals q.2 = true) fs gs) :
    (Value.map fs).equals (.map gs) = true := by
  rw [equals, Bool.and_eq_true, beq_iff_eq, equalsFields_iff]
  refine ⟨h.length_eq, fun p hp => ?_⟩
  obtain ⟨i, hi, rfl⟩ := List.getElem_of_mem hp
  obtain ⟨hl, he⟩ := List.forall₂_iff_get.mp h
  obtain ⟨hk, he⟩ := he i hi (hl ▸ hi)
  refine ⟨_, Fields.get?_of_mem hg ?_, he⟩
  rw [List.get_eq_getElem] at hk
  rw [hk]
  exact List.get_mem _ _

theorem forall₂_packFrom {vs ws : List Value}
    (h : List.Forall₂ (fun v w => v.equals w = true) vs ws) : ∀ index : Nat,
    List.Forall₂ (fun p q => p.1 = q.1 ∧ p.2.equals q.2 = true) (packFrom index vs)
      (packFrom index ws) := by
  induction h with
  | nil => exact fun _ => .nil
  | cons he _ ih => exact fun index => .cons ⟨rfl, he⟩ (ih (index + 1))

theorem equals_pack {vs ws : List Value}
    (h : List.Forall₂ (fun v w => v.equals w = true) vs ws) :
    (Value.map (pack vs)).equals (.map (pack ws)) = true := by
  refine equals_map_of_forall₂ ?_ (forall₂_packFrom h 0)
  rw [keys_pack]
  exact List.nodup_range.map tupleKey_injective

theorem SameData.dictTest {m n v w : Value} (hm : SameData m n) (h : SameData v w)
    (key : String) : (pair (m.dictTest key v)).equals (pair (n.dictTest key w)) = true := by
  have hg := hm.get?_fields key
  unfold Value.dictTest
  cases hmk : Fields.get? m.fields key <;> cases hnk : Fields.get? n.fields key <;>
    rw [hmk, hnk] at hg
  · exact equals_pair h.equals false
  · cases hg
  · cases hg
  · exact equals_pair (by simpa using hg) true

end Value

/-! ### Types and quantities -/

namespace TypeName

variable {v w : Value}

/-- **A type accepts all that is the same data, or none of it.** -/
theorem accepts_congr (t : TypeName) (h : Value.SameData v w) : t.accepts v = t.accepts w := by
  cases h.alike with
  | number hxy =>
    have := Binary64.isIntegral_of_beq hxy
    cases t <;> simp [accepts, Value.isNull, this]
  | _ => cases t <;> rfl

theorem test_congr (t : TypeName) (h : Value.SameData v w) {zero zero' : Value}
    (hz : Value.SameData zero zero') :
    (Value.pair (t.test v zero)).equals (Value.pair (t.test w zero')) = true := by
  rw [test, test, t.accepts_congr h]
  split_ifs
  · exact Value.equals_pair h.equals true
  · exact Value.equals_pair hz.equals false

end TypeName

namespace Quantity

variable {v w : Value}

theorem toInt64_congr (h : Value.SameData v w) : toInt64 v = toInt64 w := by
  cases h.alike with
  | number hxy => rw [toInt64, toInt64, Binary64.toInt64_of_beq hxy]
  | _ => rfl

end Quantity

/-! ### Builtins -/

namespace Builtin

/-- The same failure, or equal results. -/
def SameOutcome : Except Failure Value → Except Failure Value → Prop
  | .error f, .error g => f = g
  | .ok v, .ok w => (v == w) = true
  | _, _ => False

theorem SameOutcome.error (f : Failure) : SameOutcome (.error f) (.error f) := rfl

theorem SameOutcome.ok {v w : Value} (h : v.equals w = true) : SameOutcome (.ok v) (.ok w) := h

theorem SameOutcome.ite {p : Prop} [Decidable p] {x x' y y' : Except Failure Value}
    (h : SameOutcome x y) (h' : SameOutcome x' y') :
    SameOutcome (if p then x else x') (if p then y else y') := by
  split_ifs
  · exact h
  · exact h'

/-- What goes on with the same result of a first step. -/
theorem SameOutcome.bind {α : Type} (x : Except Failure α) {k l : α → Except Failure Value}
    (h : ∀ a, SameOutcome (k a) (l a)) : SameOutcome (x >>= k) (x >>= l) := by
  cases x with
  | error f => exact .error f
  | ok a => exact h a

open Value (SameData)

variable {u v w u' v' w' : Value}

theorem assert_congr (t : TypeName) (h : SameData v w) :
    SameOutcome (t.assert v) (t.assert w) := by
  have he := h.equals
  unfold TypeName.assert
  rw [t.accepts_congr h, h.kindName]
  refine .ite ?_ (.error _)
  cases h.alike with
  | number hxy =>
    cases t.isInteger with
    | false => exact .ok he
    | true =>
      change SameOutcome (.ok (.int _)) (.ok (.int _))
      rw [Binary64.toInt64_of_beq hxy]
      exact .ok (Value.equals_int_iff.mpr (Or.inl rfl))
  | _ => cases t.isInteger <;> exact .ok he

theorem assertNamed_congr (hn : SameData u u') (h : SameData v v') :
    SameOutcome (assertNamed u v) (assertNamed u' v') := by
  unfold assertNamed
  rw [hn.toText, h.kindName]
  refine .bind _ fun text => .bind _ fun t => ?_
  have ha := assert_congr t h
  cases hv : t.assert v <;> cases hw : t.assert v' <;> rw [hv, hw] at ha
  · exact .error _
  · cases ha
  · cases ha
  · exact ha

theorem validate_congr (h : SameData v w) :
    SameOutcome (Quantity.validate v) (Quantity.validate w) := by
  have he := h.equals
  cases h.alike with
  | string s => exact .ite (.ok he) (.error _)
  | _ => exact .error _

theorem apply_one_congr (b : Builtin) (h : SameData v w) (hb : b.arity = 1) :
    SameOutcome (b.apply [v]) (b.apply [w]) := by
  cases b with
  | compact =>
    cases h.alike with
    | list hvw => exact .ok (Value.equals_pack hvw)
    | _ => exact .error _
  | deref =>
    rw [apply, apply, Value.deref, Value.deref, h.isNull]
    exact .ite (.error _) (.ok h.equals)
  | isIntLikeFloat =>
    rw [apply, apply, h.isIntegralNumber]
    exact .ok (Value.equals_bool_iff.mpr rfl)
  | len =>
    rw [apply, apply, h.length]
    exact .ok (Value.equals_int_iff.mpr (Or.inl rfl))
  | quantityCount =>
    rw [apply, apply, Quantity.toInt64_congr h]
    exact .bind _ fun count => .ok (Value.equals_pair (Value.equals_int_iff.mpr (Or.inl rfl)) _)
  | quantityCheck => exact validate_congr h
  | _ => cases hb

theorem apply_two_congr (b : Builtin) (hu : SameData u u') (hv : SameData v v')
    (hb : b.arity = 2) : SameOutcome (b.apply [u, v]) (b.apply [u', v']) := by
  cases b with
  | ptrDeref =>
    rw [apply, apply, Value.derefD, Value.derefD, hu.isNull]
    split_ifs
    · exact .ok hv.equals
    · exact .ok hu.equals
  | ptrEqual =>
    rw [apply, apply, hu.pointsToSame hv]
    exact .ok (Value.equals_bool_iff.mpr rfl)
  | typeAssertion => exact assertNamed_congr hu hv
  | _ => cases hb

theorem apply_three_congr (b : Builtin) (hu : SameData u u') (hv : SameData v v')
    (hw : SameData w w') (hb : b.arity = 3) :
    SameOutcome (b.apply [u, v, w]) (b.apply [u', v', w']) := by
  cases b with
  | dictTest =>
    rw [apply, apply, hv.toText]
    exact .bind _ fun key => .ok (hu.dictTest hw key)
  | typeTest =>
    rw [apply, apply, hu.toText]
    exact .bind _ fun text => .bind _ fun t => .ok (t.test_congr hv hw)
  | _ => cases hb

/-- **Builtins respect equality** of arguments without integers. -/
theorem apply_congr (b : Builtin) {args args' : List Value} (h : List.Forall₂ SameData args args') :
    SameOutcome (b.apply args) (b.apply args') := by
  by_cases hl : args.length = b.arity
  · have hb : b.arity = 1 ∨ b.arity = 2 ∨ b.arity = 3 := by cases b <;> decide
    rcases hb with hb | hb | hb
    · obtain ⟨u, rfl⟩ := List.length_eq_one_iff.mp (hl.trans hb)
      obtain _ | ⟨hu, _ | _⟩ := h
      exact apply_one_congr b hu hb
    · obtain ⟨u, v, rfl⟩ := List.length_eq_two.mp (hl.trans hb)
      obtain _ | ⟨hu, _ | ⟨hv, _ | _⟩⟩ := h
      exact apply_two_congr b hu hv hb
    · obtain ⟨u, v, w, rfl⟩ := List.length_eq_three.mp (hl.trans hb)
      obtain _ | ⟨hu, _ | ⟨hv, _ | ⟨hw, _ | _⟩⟩⟩ := h
      exact apply_three_congr b hu hv hw hb
  · rw [apply_of_length_ne hl, apply_of_length_ne (h.length_eq ▸ hl), h.length_eq]
    exact .error _

/-- **No builtin observes the order of keys or the sign of a zero.** Called by any name with arguments
that are pairwise equal, none of which holds an integer at any depth, it fails in the same way or
gives equal results. -/
theorem call_of_equal (name : String) {args args' : List Value}
    (h : List.Forall₂ (fun v w => (v == w) = true) args args')
    (hi : ∀ v ∈ args ++ args', v.isIntFree = true) (hd : ∀ v ∈ args ++ args', v.HasDistinctKeys) :
    (∃ f, call name args = .error f ∧ call name args' = .error f) ∨
      ∃ r r', call name args = .ok r ∧ call name args' = .ok r' ∧ (r == r') = true := by
  rw [List.forall_mem_append] at hi hd
  have hs : List.Forall₂ SameData args args' := by
    refine List.forall₂_iff_get.mpr ⟨h.length_eq, fun i hl hl' => ?_⟩
    exact ⟨(List.forall₂_iff_get.mp h).2 i hl hl', hi.1 _ (List.get_mem _ _),
      hi.2 _ (List.get_mem _ _), hd.1 _ (List.get_mem _ _), hd.2 _ (List.get_mem _ _)⟩
  unfold call
  cases ofName name with
  | error f => exact Or.inl ⟨f, rfl, rfl⟩
  | ok b =>
    change (∃ f, b.apply args = .error f ∧ b.apply args' = .error f) ∨
      ∃ r r', b.apply args = .ok r ∧ b.apply args' = .ok r' ∧ (r == r') = true
    have hc := apply_congr b hs
    cases hx : b.apply args <;> cases hy : b.apply args' <;> rw [hx, hy] at hc
    · exact Or.inl ⟨_, rfl, by rw [hc]⟩
    · cases hc
    · cases hc
    · exact Or.inr ⟨_, _, rfl, rfl, hc⟩

/-- A look-up in a map, and one in the map with its keys the other way round and its zero negated. -/
theorem call_of_equal_dictTest :
    let zero := Value.number .zero
    let zero' := Value.number (.signed true Binary64.zeroRank)
    let args := [Value.map [("a", .list [zero]), ("b", .null)], .string "a", .null]
    let args' := [Value.map [("b", .null), ("a", .list [zero'])], .string "a", .null]
    call "dicttest" args = .ok (.list [.list [zero], .bool true]) ∧
      call "dicttest" args' = .ok (.list [.list [zero'], .bool true]) ∧
      (Value.list [.list [zero], .bool true] == .list [.list [zero'], .bool true]) = true := by
  intro zero zero' args args'
  have hx : call "dicttest" args = .ok (.list [.list [zero], .bool true]) := rfl
  have hy : call "dicttest" args' = .ok (.list [.list [zero'], .bool true]) := rfl
  have he : List.Forall₂ (fun v w => (v == w) = true) args args' :=
    .cons (by decide) (.cons (by decide) (.cons (by decide) .nil))
  have h := call_of_equal "dicttest" he
    (by decide)
    (by simp [args, args', zero, zero'])
  rcases h with ⟨f, hf, -⟩ | ⟨r, r', hr, hr', he⟩
  · exact nomatch hx.symm.trans hf
  · obtain rfl := Except.ok.inj (hx.symm.trans hr)
    obtain rfl := Except.ok.inj (hy.symm.trans hr')
    exact ⟨hx, hy, he⟩

/-! ### Canonical values -/

/-- Outcomes are alike after a change of results if they fail alike or the results are. -/
theorem alike_of_map_eq {f : Value → Value} {x y : Except Failure Value} (h : x.map f = y.map f) :
    (∃ e, x = .error e ∧ y = .error e) ∨ ∃ v w, x = .ok v ∧ y = .ok w ∧ f v = f w := by
  cases x with
  | error e =>
    cases y with
    | error e' => exact Or.inl ⟨e, rfl, by rw [Except.error.inj h]⟩
    | ok w => cases h
  | ok v =>
    cases y with
    | error e => cases h
    | ok w => exact Or.inr ⟨v, w, rfl, rfl, Except.ok.inj h⟩

/-- **No builtin tells data from its canonical value.** -/
theorem apply_canonical (b : Builtin) {args : List Value} (h : ∀ v ∈ args, v.IsData) :
    (b.apply (args.map Value.canonical)).map Value.canonical =
      (b.apply args).map Value.canonical := by
  have hs : List.Forall₂ SameData (args.map Value.canonical) args := by
    rw [List.forall₂_map_left_iff, List.forall₂_same]
    exact fun v hv => (h v hv).sameData_canonical
  have hc := apply_congr b hs
  cases hx : b.apply (args.map Value.canonical) <;> cases hy : b.apply args <;> rw [hx, hy] at hc
  · exact congrArg Except.error hc
  · cases hc
  · cases hc
  · rename_i r r'
    refine congrArg Except.ok (Value.canonical_eq_of_equals r r' ?_ ?_ hc)
    · exact hasDistinctKeys_of_apply (by simpa using fun v _ => v.hasDistinctKeys_canonical) hx
    · exact hasDistinctKeys_of_apply (fun v hv => (h v hv).distinct) hy

end Builtin
end ChartRender
