import ChartRender.Builtin
import ChartRender.Proofs.Value.Rearrangement
/-!
# How far equality is an equivalence

Pointers are compared by the equality of what they point to. It is symmetric, it does not see the
order of fields, and it is reflexive on all values in which not-a-number does not occur
(`Value.equals_symm_and_refl`).

It is not transitive, since an integer is compared with a number as the number nearest to it, and from
`2 ^ 53` on several integers share that. Two values that are equal to a third are equal to each other
exactly if they hold the same integer wherever both hold one (`Value.equals_trans_iff`).

Key theorems: `Value.equals_symm_and_refl`, `Value.equals_trans_iff`.
-/

namespace ChartRender
namespace Value

/-- Null is equal to null, so that pointers are compared like values. -/
theorem pointsToSame_eq (v w : Value) : v.pointsToSame w = (v == w) := by
  unfold pointsToSame
  split_ifs with h
  · rw [Bool.and_eq_true] at h
    cases v with
    | null =>
      cases w with
      | null => rfl
      | _ => cases h.2
    | _ => cases h.1
  · rfl

/-! ### Symmetry and reflexivity -/

/-- **Equality is symmetric, and reflexive exactly where not-a-number does not occur**, also between
values whose maps differ in the order of fields. -/
theorem equals_symm_and_refl {v w : Value} (hv : v.HasDistinctKeys) (hw : w.HasDistinctKeys) :
    (v == w) = (w == v) ∧ v.pointsToSame w = (v == w) ∧ ((v == v) = true ↔ ¬ v.HasNaN) ∧
      ∀ u, Rearranged v u → u.HasDistinctKeys ∧ ((v == u) = true ↔ ¬ v.HasNaN) := by
  have hsymm : (v == w) = (w == v) :=
    Bool.eq_iff_iff.mpr ⟨equals_symm v w hv hw, equals_symm w v hw hv⟩
  exact ⟨hsymm, pointsToSame_eq v w, equals_self_iff v hv,
    fun u h => ⟨h.hasDistinctKeys hv, h.equals_iff hv⟩⟩

/-- Ports in a list of maps, with integers on one side and the fields in another order. -/
theorem equals_symm_and_refl_ports :
    let one := Binary64.ofInt 1
    let v := Value.list [.map [("port", .number one), ("name", .string "web")], .null]
    let w := Value.list [.map [("name", .string "web"), ("port", .int 1)], .null]
    let u := Value.list [.map [("name", .string "web"), ("port", .number one)], .null]
    v.HasDistinctKeys ∧ w.HasDistinctKeys ∧ Rearranged v u ∧ (w == v) = true ∧
      v.pointsToSame w = true ∧ (v == u) = true := by
  intro one v w u
  have hv : v.HasDistinctKeys := by simp [v]
  have hw : w.HasDistinctKeys := by simp [w]
  have hmap : Rearranged (.map [("port", .number one), ("name", .string "web")])
      (.map [("name", .string "web"), ("port", .number one)]) :=
    .map rfl (List.forall₂_same.mpr fun x _ => .same x) (List.Perm.swap _ _ _)
  have hu : Rearranged v u := .list (.cons hmap (.cons (.same _) .nil))
  have hn : ¬ v.HasNaN := by simp [v, one]
  have hvw : (v == w) = true := by decide +kernel
  obtain ⟨hsymm, hpoints, -, hperm⟩ := equals_symm_and_refl hv hw
  exact ⟨hv, hw, hu, hsymm ▸ hvw, hpoints.trans hvw, (hperm u hu).2.mpr hn⟩

/-! ### Transitivity -/

/-- **Values equal to a third are equal exactly if they do not hold different integers** at the same
place. Where they do, the third holds a number that both integers are rounded to, so that they are
not below `2 ^ 53`. -/
theorem equals_trans_iff {v w u : Value} (hv : v.HasDistinctKeys) (hw : w.HasDistinctKeys)
    (hu : u.HasDistinctKeys) (h : (v == w) = true) (h' : (w == u) = true) :
    ((v == u) = true ↔ SameInts v u) ∧ v.pointsToSame u = (v == u) ∧
      ∀ place i j, v.part? place = some (.int i) → u.part? place = some (.int j) → i ≠ j →
        (∃ x, w.part? place = some (.number x) ∧ (x == .ofInt64 i) = true ∧
          (x == .ofInt64 j) = true) ∧
        2 ^ 53 ≤ i.toInt.natAbs ∧ 2 ^ 53 ≤ j.toInt.natAbs := by
  refine ⟨⟨sameInts_of_equals hv hu, equals_trans_of_sameInts v w u hv hw hu h h'⟩,
    pointsToSame_eq v u, fun place i j hi hj hij => ?_⟩
  obtain ⟨m, hm, hvm⟩ := exists_of_rel_some (hi ▸ equals_part? place hv hw h)
  obtain ⟨j', hj', hmu⟩ := exists_of_rel_some (hm ▸ equals_part? place hw hu h')
  obtain rfl := Option.some.inj (hj.symm.trans hj')
  rcases equals_int_iff.mp hvm with rfl | ⟨x, rfl, hxi⟩
  · rcases equals_int_iff.mp hmu with he | ⟨y, he, -⟩
    · exact absurd (Value.int.inj he).symm hij
    · cases he
  · rcases equals_number_iff.mp hmu with ⟨y, he, -⟩ | ⟨k, he, hxj⟩
    · cases he
    · obtain rfl := Value.int.inj he
      exact ⟨⟨x, hm, hxi, hxj⟩, Binary64.le_natAbs_of_beq_ofInt64 hij hxi hxj,
        Binary64.le_natAbs_of_beq_ofInt64 hij.symm hxj hxi⟩

/-- A count that is an integer, a number and an integer again, in maps with their fields in two
orders. -/
theorem equals_trans_iff_count :
    let v := Value.map [("count", .int 4), ("name", .string "web")]
    let w := Value.map [("name", .string "web"), ("count", .number (.ofInt 4))]
    let u := Value.map [("name", .string "web"), ("count", .int 4)]
    v.HasDistinctKeys ∧ w.HasDistinctKeys ∧ u.HasDistinctKeys ∧ (v == w) = true ∧
      (w == u) = true ∧ SameInts v u ∧ v.pointsToSame u = true := by
  intro v w u
  have hv : v.HasDistinctKeys := by simp [v]
  have hw : w.HasDistinctKeys := by simp [w]
  have hu : u.HasDistinctKeys := by simp [u]
  have h : (v == w) = true := by decide +kernel
  have h' : (w == u) = true := by decide +kernel
  have hvu : (v == u) = true := by decide +kernel
  obtain ⟨hiff, hpoints, -⟩ := equals_trans_iff hv hw hu h h'
  exact ⟨hv, hw, hu, h, h', hiff.mp hvu, hpoints.trans hvu⟩

/-- Equality is not transitive: `2 ^ 53` is the number nearest to two integers. -/
theorem equals_not_transitive :
    let v := Value.int 9007199254740992
    let w := Value.number (.ofInt 9007199254740992)
    let u := Value.int 9007199254740993
    (v == w) = true ∧ (w == u) = true ∧ (v == u) = false ∧ v.pointsToSame u = false := by
  decide +kernel

end Value
end ChartRender
