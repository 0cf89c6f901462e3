import ChartRender.Proofs.Value.Equality
/-!
# What occurs in a value

A value occurs in another if it is that value, or occurs in an element of it or under a key of it
(`Value.OccursIn`). Equality is not reflexive where not-a-number occurs, at whatever depth, since
that is not equal to itself or to anything else; there is no other reason (`Value.equals_self_iff`).

Key definitions: `Value.OccursIn`, `Value.HasNaN`.
Key theorems: `Value.OccursIn.exists_part?`, `Value.not_hasNaN_of_equals`, `Value.equals_self_iff`.
-/

namespace ChartRender
namespace Value

/-- A value occurs in itself, and in a list or a map if it occurs in something that is in there. -/
inductive OccursIn (u : Value) : Value → Prop
  | self : OccursIn u u
  | element {v : Value} {items : List Value} : v ∈ items → OccursIn u v → OccursIn u (.list items)
  | field {p : String × Value} {fields : Fields} :
    p ∈ fields → OccursIn u p.2 → OccursIn u (.map fields)

/-- Not-a-number occurs in the value. -/
def HasNaN (v : Value) : Prop := OccursIn (.number .nan) v

@[simp] theorem not_hasNaN_null : ¬ HasNaN .null := nofun

@[simp] theorem not_hasNaN_bool (b : Bool) : ¬ HasNaN (.bool b) := nofun

@[simp] theorem not_hasNaN_int (i : Int64) : ¬ HasNaN (.int i) := nofun

@[simp] theorem not_hasNaN_string (s : String) : ¬ HasNaN (.string s) := nofun

@[simp] theorem hasNaN_number {x : Binary64} : HasNaN (.number x) ↔ x = .nan := by
  constructor
  · rintro ⟨⟩
    rfl
  · rintro rfl
    exact .self

@[simp] theorem hasNaN_list {items : List Value} :
    HasNaN (.list items) ↔ ∃ v ∈ items, v.HasNaN := by
  constructor
  · rintro (_ | ⟨hv, h⟩ | _)
    exact ⟨_, hv, h⟩
  · rintro ⟨v, hv, h⟩
    exact .element hv h

@[simp] theorem hasNaN_map {fields : Fields} :
    HasNaN (.map fields) ↔ ∃ p ∈ fields, p.2.HasNaN := by
  constructor
  · rintro (_ | _ | ⟨hp, h⟩)
    exact ⟨_, hp, h⟩
  · rintro ⟨p, hp, h⟩
    exact .field hp h

/-- What occurs in a value stands at a place in it. -/
theorem OccursIn.exists_part? {u v : Value} (h : OccursIn u v) :
    v.HasDistinctKeys → ∃ place, v.part? place = some u := by
  induction h with
  | self => exact fun _ => ⟨[], rfl⟩
  | @element v items hv _ ih =>
    intro hd
    obtain ⟨place, hp⟩ := ih (hasDistinctKeys_list.mp hd v hv)
    obtain ⟨n, hn⟩ := List.mem_iff_getElem?.mp hv
    have hc : child? (.list items) (.index n) = some v := hn
    exact ⟨.index n :: place, (part?_step hc place).trans hp⟩
  | @field p fields hp _ ih =>
    intro hd
    obtain ⟨hk, hd⟩ := hasDistinctKeys_map.mp hd
    obtain ⟨place, hu⟩ := ih (hd p hp)
    have hc : child? (.map fields) (.key p.1) = some p.2 := Fields.get?_of_mem hk hp
    exact ⟨.key p.1 :: place, (part?_step hc place).trans hu⟩

/-- What occurs in a value without integers is without integers. -/
theorem OccursIn.isIntFree {u v : Value} (h : OccursIn u v) :
    v.isIntFree = true → u.isIntFree = true := by
  induction h with
  | self => exact id
  | element hv _ ih => exact fun hi => ih (isIntFree_list.mp hi _ hv)
  | field hp _ ih => exact fun hi => ih (isIntFree_map.mp hi _ hp)

/-- **Where not-a-number occurs, nothing is equal to the value.** -/
theorem not_hasNaN_of_equals {v w : Value} (hv : v.HasDistinctKeys) (hw : w.HasDistinctKeys)
    (h : v.equals w = true) : ¬ v.HasNaN := by
  intro hn
  obtain ⟨place, hp⟩ := hn.exists_part? hv
  obtain ⟨u, -, he⟩ := exists_of_rel_some (hp ▸ equals_part? place hv hw h)
  rcases equals_number_iff.mp he with ⟨y, -, he⟩ | ⟨i, -, he⟩
  · exact (Binary64.beq_iff.mp he).1 rfl
  · exact (Binary64.beq_iff.mp he).1 rfl

/-- **A value is equal to itself exactly if not-a-number does not occur in it.** -/
theorem equals_self_iff (v : Value) : v.HasDistinctKeys → (v.equals v = true ↔ ¬ v.HasNaN) := by
  induction v using Value.induction with
  | number x =>
    intro _
    rw [equals, hasNaN_number, Binary64.beq_iff, and_iff_left rfl]
  | list items ih =>
    intro hd
    rw [hasDistinctKeys_list] at hd
    rw [equals, equalsAll_iff, List.forall₂_same, hasNaN_list]
    push Not
    exact forall₂_congr fun v hv => ih v hv (hd v hv)
  | map fields ih =>
    intro hd
    obtain ⟨hk, hd⟩ := hasDistinctKeys_map.mp hd
    rw [equals, beq_self_eq_true, Bool.true_and, equalsFields_iff, hasNaN_map]
    push Not
    refine forall₂_congr fun p hp => ?_
    rw [Fields.get?_of_mem hk hp, ← ih p hp (hd p hp)]
    simp
  | _ => simp [equals]

end Value
end ChartRender
