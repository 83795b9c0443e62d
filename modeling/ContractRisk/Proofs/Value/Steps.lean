import Mathlib.Data.List.Forall2

/-!
# Steps that may fail

A result of steps that may fail is that of all steps, or the fault of the first one that fails:

* `bind_eq_ok_iff`, `bind_eq_error_iff`   for two steps;
* `mapM_eq_ok_iff`, `mapM_eq_error_iff`   for one step for each item of a list.
-/

namespace ContractRisk

/-! ## two steps -/

theorem bind_eq_ok_iff {ε β γ : Type} {x : Except ε β} {f : β → Except ε γ} {c : γ} :
    x >>= f = .ok c ↔ ∃ a, x = .ok a ∧ f a = .ok c := by
  cases x with
  | error e => exact ⟨fun h => (nomatch h), fun ⟨_, h, _⟩ => (nomatch h)⟩
  | ok a => exact ⟨fun h => ⟨a, rfl, h⟩, fun ⟨_, h, hf⟩ => by cases h; exact hf⟩

theorem mapError_eq_ok {ε ε' β : Type} {g : ε → ε'} {x : Except ε β} {a : β} :
    x.mapError g = .ok a ↔ x = .ok a := by
  cases x with
  | error p => exact ⟨fun h => (nomatch h), fun h => (nomatch h)⟩
  | ok b => exact ⟨fun h => congrArg Except.ok (Except.ok.inj h), fun h => by cases h; rfl⟩

theorem mapError_eq_error {ε ε' β : Type} {g : ε → ε'} {x : Except ε β} {f : ε'}
    (h : x.mapError g = .error f) : ∃ p, f = g p := by
  cases x with
  | error p => cases h; exact ⟨p, rfl⟩
  | ok _ => exact nomatch h

theorem bind_eq_error_iff {ε β γ : Type} {x : Except ε β} {f : β → Except ε γ} {e : ε} :
    x >>= f = .error e ↔ x = .error e ∨ ∃ a, x = .ok a ∧ f a = .error e := by
  cases x with
  | error e' =>
    constructor
    · intro h
      exact .inl (congrArg Except.error (Except.error.inj h))
    · rintro (h | ⟨a, ha, _⟩)
      · cases h; rfl
      · exact nomatch ha
  | ok a =>
    constructor
    · intro h
      exact .inr ⟨a, rfl, h⟩
    · rintro (h | ⟨a', ha, h⟩)
      · exact nomatch h
      · cases ha; exact h

theorem map_eq_ok_iff {ε β γ : Type} {f : β → γ} {x : Except ε β} {c : γ} :
    x.map f = .ok c ↔ ∃ a, x = .ok a ∧ f a = c := by
  cases x with
  | error e => exact ⟨fun h => (nomatch h), fun ⟨_, h, _⟩ => (nomatch h)⟩
  | ok a => exact ⟨fun h => ⟨a, rfl, Except.ok.inj h⟩, fun ⟨_, h, hf⟩ => by cases h; rw [← hf]; rfl⟩

theorem map_eq_error_iff {ε β γ : Type} {f : β → γ} {x : Except ε β} {e : ε} :
    x.map f = .error e ↔ x = .error e := by
  cases x with
  | error e' => exact ⟨fun h => congrArg Except.error (Except.error.inj h), fun h => by cases h; rfl⟩
  | ok a => exact ⟨fun h => (nomatch h), fun h => (nomatch h)⟩

theorem isOk_map {ε β γ : Type} (f : β → γ) (x : Except ε β) : (x.map f).isOk = x.isOk := by
  cases x <;> rfl

/-! ## a step for each item -/

section
variable {ε β γ : Type} {f : β → Except ε γ}

theorem mapM_eq_ok_iff {xs : List β} {ys : List γ} :
    xs.mapM f = .ok ys ↔ List.Forall₂ (fun x y => f x = .ok y) xs ys := by
  induction xs generalizing ys with
  | nil =>
    rw [List.mapM_nil]
    constructor
    · intro h
      cases h
      exact .nil
    · intro h
      cases h
      rfl
  | cons x xs ih =>
    rw [List.mapM_cons, bind_eq_ok_iff]
    simp only [bind_eq_ok_iff, ih]
    constructor
    · rintro ⟨y, hy, zs, hzs, h⟩
      cases h
      exact .cons hy hzs
    · intro h
      cases h with
      | cons hy hzs => exact ⟨_, hy, _, hzs, rfl⟩

/-- the first step that fails ends the row -/
theorem mapM_eq_error_iff {xs : List β} {e : ε} :
    xs.mapM f = .error e ↔ ∃ done x rest ys, xs = done ++ x :: rest ∧
      List.Forall₂ (fun x y => f x = .ok y) done ys ∧ f x = .error e := by
  induction xs with
  | nil =>
    rw [List.mapM_nil]
    constructor
    · intro h
      exact nomatch h
    · rintro ⟨done, x, rest, ys, h, _⟩
      exact absurd h (by simp)
  | cons x xs ih =>
    rw [List.mapM_cons, bind_eq_error_iff]
    constructor
    · rintro (hx | ⟨y, hy, h⟩)
      · exact ⟨[], x, xs, [], rfl, .nil, hx⟩
      · rcases bind_eq_error_iff.mp h with h | ⟨zs, _, h⟩
        · obtain ⟨done, x', rest, ys, rfl, hdone, hx'⟩ := ih.mp h
          exact ⟨x :: done, x', rest, y :: ys, rfl, .cons hy hdone, hx'⟩
        · exact nomatch h
    · rintro ⟨done, x', rest, ys, h, hdone, hx'⟩
      cases hdone with
      | nil =>
        obtain ⟨rfl, rfl⟩ := List.cons.inj h
        exact .inl hx'
      | @cons _ y done ys hy hdone =>
        obtain ⟨rfl, rfl⟩ := List.cons.inj h
        have hrest := ih.mpr ⟨done, x', rest, ys, rfl, hdone, hx'⟩
        exact .inr ⟨y, hy, bind_eq_error_iff.mpr (.inl hrest)⟩

/-- if every step gives its item back, the row gives the list back -/
theorem mapM_eq_self {f : β → Except ε β} {xs : List β} (h : ∀ x ∈ xs, f x = .ok x) : xs.mapM f = .ok xs :=
  mapM_eq_ok_iff.mpr (List.forall₂_same.mpr h)

theorem isOk_mapM_iff {xs : List β} : (xs.mapM f).isOk = true ↔ ∀ x ∈ xs, (f x).isOk = true := by
  induction xs with
  | nil => exact ⟨fun _ _ h => (nomatch h), fun _ => rfl⟩
  | cons x xs ih =>
    rw [List.mapM_cons, List.forall_mem_cons, ← ih]
    cases f x with
    | error e => exact ⟨fun h => (nomatch h), fun h => (nomatch h.1)⟩
    | ok y =>
      cases xs.mapM f with
      | error e => exact ⟨fun h => (nomatch h), fun h => (nomatch h.2)⟩
      | ok ys => exact ⟨fun _ => ⟨rfl, rfl⟩, fun _ => rfl⟩

end

end ContractRisk
