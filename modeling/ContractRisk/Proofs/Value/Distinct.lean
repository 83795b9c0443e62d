import ContractRisk.Value
import Mathlib.Data.List.Basic

/-!
# Values without repetitions

`Value.distinct` keeps the first of each group of equal values. What it keeps is `Unrepeated`, it keeps
nothing else than it is given, and it keeps all of what is unrepeated already.
-/

namespace ContractRisk.Value

/-- no value is equal to one before it -/
def Unrepeated (xs : List Value) : Prop := xs.Pairwise fun x y => y.same x = false

/-- what `distinct` does with one more value -/
def addNew (seen : List Value) (x : Value) : List Value :=
  if seen.any (x.same ·) then seen else seen ++ [x]

theorem any_same_eq_false {seen : List Value} {x : Value} :
    seen.any (x.same ·) = false ↔ ∀ y ∈ seen, x.same y = false := by
  simp only [List.any_eq_false, Bool.not_eq_true]

theorem unrepeated_addNew {seen : List Value} (h : Unrepeated seen) (x : Value) :
    Unrepeated (addNew seen x) := by
  unfold addNew
  split
  · exact h
  · next hx =>
    have hnew : ∀ y ∈ seen, x.same y = false := any_same_eq_false.mp (Bool.eq_false_iff.mpr hx)
    refine List.pairwise_append.mpr ⟨h, List.pairwise_singleton _ x, fun y hy z hz => ?_⟩
    rw [List.mem_singleton.mp hz]
    exact hnew y hy

theorem unrepeated_foldl_addNew (xs : List Value) {seen : List Value} (h : Unrepeated seen) :
    Unrepeated (xs.foldl addNew seen) := by
  induction xs generalizing seen with
  | nil => exact h
  | cons x xs ih => exact ih (unrepeated_addNew h x)

theorem unrepeated_distinct (xs : List Value) : Unrepeated (distinct xs) :=
  unrepeated_foldl_addNew xs .nil

theorem mem_foldl_addNew {xs seen : List Value} {y : Value} (h : y ∈ xs.foldl addNew seen) :
    y ∈ seen ∨ y ∈ xs := by
  induction xs generalizing seen with
  | nil => exact .inl h
  | cons x xs ih =>
    rcases ih h with hy | hy
    · unfold addNew at hy
      split at hy
      · exact .inl hy
      · rcases List.mem_append.mp hy with hy | hy
        · exact .inl hy
        · exact .inr (List.mem_singleton.mp hy ▸ List.mem_cons_self)
    · exact .inr (List.mem_cons_of_mem x hy)

theorem distinct_subset (xs : List Value) : distinct xs ⊆ xs := fun _ hy =>
  (mem_foldl_addNew hy).resolve_left (fun h => nomatch h)

theorem foldl_addNew (xs seen : List Value) (h : Unrepeated (seen ++ xs)) :
    xs.foldl addNew seen = seen ++ xs := by
  induction xs generalizing seen with
  | nil => exact (List.append_nil seen).symm
  | cons x xs ih =>
    have hx : seen.any (x.same ·) = false :=
      any_same_eq_false.mpr fun y hy => (List.pairwise_append.mp h).2.2 y hy x List.mem_cons_self
    have hall : seen ++ x :: xs = (seen ++ [x]) ++ xs := by simp
    rw [hall] at h ⊢
    rw [List.foldl_cons, addNew, hx, if_neg Bool.false_ne_true, ih _ h]

/-- unrepeated values are all kept -/
theorem distinct_of_unrepeated {xs : List Value} (h : Unrepeated xs) : distinct xs = xs :=
  foldl_addNew xs [] h

end ContractRisk.Value
