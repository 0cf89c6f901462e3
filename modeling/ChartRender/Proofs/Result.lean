/-!
# Results

A result is known to be there if one that goes on with it is, or if it is still there once the
reasons for failing are left out.

A list of results is there if all of them are, and fails as the first one that does.

Key theorems: `bind_eq_ok`, `map_eq_ok`, `eq_ok_of_toOption`, `mapM_cons_ok`, `mapM_eq_error`,
`mapM_first_error`, `mapM_split`, `exists_of_mem_mapM`.
-/

namespace ChartRender

variable {ε α β : Type}

theorem bind_eq_ok {x : Except ε α} {f : α → Except ε β} {b : β} (h : (x >>= f) = .ok b) :
    ∃ a, x = .ok a ∧ f a = .ok b := by
  cases x with
  | error e => cases h
  | ok a => exact ⟨a, rfl, h⟩

theorem map_eq_ok {x : Except ε α} {f : α → β} {b : β} (h : x.map f = .ok b) :
    ∃ a, x = .ok a ∧ f a = b := by
  cases x with
  | error e => cases h
  | ok a => exact ⟨a, rfl, Except.ok.inj h⟩

theorem eq_ok_of_toOption {x : Except ε α} {a : α} (h : x.toOption = some a) : x = .ok a := by
  cases x with
  | error e => cases h
  | ok b => exact congrArg Except.ok (Option.some.inj h)

/-! ### Lists of results -/

section
variable {f : α → Except ε β}

theorem mapM_cons_ok {x : α} {xs : List α} {ys : List β} (h : (x :: xs).mapM f = .ok ys) :
    ∃ y zs, f x = .ok y ∧ xs.mapM f = .ok zs ∧ ys = y :: zs := by
  rw [List.mapM_cons] at h
  obtain ⟨y, hy, h⟩ := bind_eq_ok h
  obtain ⟨zs, hzs, h⟩ := bind_eq_ok h
  exact ⟨y, zs, hy, hzs, (Except.ok.inj h).symm⟩

theorem mapM_eq_error {e : ε} : ∀ {xs : List α},
    xs.mapM f = .error e → ∃ x ∈ xs, f x = .error e
  | [], h => by cases h
  | x :: xs, h => by
    rw [List.mapM_cons] at h
    cases hx : f x with
    | error e' =>
      rw [hx] at h
      exact ⟨x, List.mem_cons_self, hx.trans (congrArg _ (Except.error.inj h))⟩
    | ok y =>
      cases hxs : xs.mapM f with
      | error e' =>
        rw [hx, hxs] at h
        obtain ⟨z, hz, he⟩ := mapM_eq_error hxs
        exact ⟨z, List.mem_cons_of_mem x hz, he.trans (congrArg _ (Except.error.inj h))⟩
      | ok ys =>
        rw [hx, hxs] at h
        cases h

theorem forall_ok_of_mapM : ∀ {xs : List α} {ys : List β},
    xs.mapM f = .ok ys → ∀ x ∈ xs, ∃ y, f x = .ok y
  | [], _, _ => by simp
  | x :: xs, _, h => by
    obtain ⟨y, zs, hy, hzs, rfl⟩ := mapM_cons_ok h
    exact List.forall_mem_cons.mpr ⟨⟨y, hy⟩, forall_ok_of_mapM hzs⟩

/-- The first member without a result is the one that a list fails as. -/
theorem mapM_first_error {x : α} {e : ε} (h : f x = .error e) (back : List α) :
    ∀ {front : List α}, (∀ y ∈ front, ∃ z, f y = .ok z) → (front ++ x :: back).mapM f = .error e
  | [], _ => by
    rw [List.nil_append, List.mapM_cons, h]
    rfl
  | y :: front, hf => by
    obtain ⟨⟨z, hz⟩, hf⟩ := List.forall_mem_cons.mp hf
    rw [List.cons_append, List.mapM_cons, hz, mapM_first_error h back hf]
    rfl

/-- The results of a list are split where the list is. -/
theorem mapM_split {x : α} {back : List α} : ∀ {front : List α} {ys : List β},
    (front ++ x :: back).mapM f = .ok ys → ∃ fs y bs, f x = .ok y ∧ back.mapM f = .ok bs ∧
      ys = fs ++ y :: bs
  | [], ys, h => by
    obtain ⟨y, bs, hy, hbs, rfl⟩ := mapM_cons_ok h
    exact ⟨[], y, bs, hy, hbs, rfl⟩
  | z :: front, ys, h => by
    obtain ⟨w, ws, -, hws, rfl⟩ := mapM_cons_ok h
    obtain ⟨fs, y, bs, hy, hbs, rfl⟩ := mapM_split hws
    exact ⟨w :: fs, y, bs, hy, hbs, rfl⟩

/-- Each of the results of a list is that of a member. -/
theorem exists_of_mem_mapM : ∀ {xs : List α} {ys : List β},
    xs.mapM f = .ok ys → ∀ y ∈ ys, ∃ x ∈ xs, f x = .ok y
  | [], ys, h => by
    obtain rfl : [] = ys := Except.ok.inj h
    simp
  | x :: xs, ys, h => by
    obtain ⟨y, zs, hy, hzs, rfl⟩ := mapM_cons_ok h
    refine List.forall_mem_cons.mpr ⟨⟨x, List.mem_cons_self, hy⟩, fun z hz => ?_⟩
    obtain ⟨w, hw, hwz⟩ := exists_of_mem_mapM hzs z hz
    exact ⟨w, List.mem_cons_of_mem x hw, hwz⟩

/-- What holds of every value that is read holds of all values read from a list. -/
theorem forall_of_mapM {P : β → Prop} (hf : ∀ x y, f x = .ok y → P y) {xs : List α} {ys : List β}
    (h : xs.mapM f = .ok ys) : ∀ y ∈ ys, P y := by
  intro y hy
  obtain ⟨x, -, hx⟩ := exists_of_mem_mapM h y hy
  exact hf x y hx

theorem exists_mapM_of_forall : ∀ {xs : List α},
    (∀ x ∈ xs, ∃ y, f x = .ok y) → ∃ ys, xs.mapM f = .ok ys
  | [], _ => ⟨[], rfl⟩
  | x :: xs, h => by
    obtain ⟨⟨y, hy⟩, h⟩ := List.forall_mem_cons.mp h
    obtain ⟨ys, hys⟩ := exists_mapM_of_forall h
    refine ⟨y :: ys, ?_⟩
    rw [List.mapM_cons, hy, hys]
    rfl

end

end ChartRender
