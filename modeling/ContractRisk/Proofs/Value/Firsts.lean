import ContractRisk.Proofs.Value.Distinct
import ContractRisk.Proofs.Value.Key

/-!
# First occurrences

Among values that can be keys, `Value.distinct` keeps the first occurrences and nothing else
(`distinct_eq_firsts`). It looks for an equal value among those it has kept, while a first occurrence has no
equal one among all before it; both are the same since equality of keys is transitive. What is kept stands
for all that is given: `reduced_distinct`.
-/

namespace ContractRisk.Value

/-- is a value equal to none that is given before its place? -/
def isFirst (xs : List Value) (e : Value × ℕ) : Bool := (xs.take e.2).all fun y => !e.1.same y

/-- the values that are equal to none before them, in order -/
def firsts (xs : List Value) : List Value := (xs.zipIdx.filter (isFirst xs)).map Prod.fst

theorem isFirst_append {xs : List Value} {e : Value × ℕ} (he : e.2 ≤ xs.length) (ys : List Value) :
    isFirst (xs ++ ys) e = isFirst xs e := by
  rw [isFirst, List.take_append_of_le_length he, isFirst]

theorem isFirst_last (xs : List Value) (x : Value) :
    isFirst (xs ++ [x]) (x, xs.length) = !xs.any (x.same ·) := by
  rw [isFirst, List.take_left, List.not_any_eq_all_not]

theorem firsts_append_singleton (xs : List Value) (x : Value) :
    firsts (xs ++ [x]) = if xs.any (x.same ·) then firsts xs else firsts xs ++ [x] := by
  have hbefore : xs.zipIdx.filter (isFirst (xs ++ [x])) = xs.zipIdx.filter (isFirst xs) :=
    List.filter_congr fun e he => isFirst_append (List.snd_lt_of_mem_zipIdx he).le [x]
  have hlast : [x].zipIdx xs.length = [(x, xs.length)] := rfl
  rw [firsts, List.zipIdx_append, Nat.zero_add, List.filter_append, hbefore, hlast, List.filter_singleton,
    isFirst_last, List.map_append, firsts]
  cases xs.any (x.same ·) <;> simp

theorem firsts_sublist (xs : List Value) : (firsts xs).Sublist xs := by
  have h : (firsts xs).Sublist (xs.zipIdx.map Prod.fst) := List.filter_sublist.map Prod.fst
  rwa [List.zipIdx_map_fst] at h

theorem distinct_append_singleton (xs : List Value) (x : Value) :
    distinct (xs ++ [x]) = addNew (distinct xs) x := List.foldl_concat ..

/-- each value is kept, or there is an equal one among those that are -/
theorem mem_distinct_or {xs : List Value} {x : Value} (h : x ∈ xs) :
    x ∈ distinct xs ∨ ∃ y ∈ distinct xs, x.same y = true := by
  induction xs using List.reverseRecOn with
  | nil => exact absurd h List.not_mem_nil
  | append_singleton xs z ih =>
    have hkept : distinct xs ⊆ distinct (xs ++ [z]) := by
      rw [distinct_append_singleton, addNew]
      split
      · exact fun _ hy => hy
      · exact List.subset_append_left _ _
    rcases List.mem_append.mp h with hx | hx
    · rcases ih hx with hx | ⟨y, hy, hxy⟩
      · exact .inl (hkept hx)
      · exact .inr ⟨y, hkept hy, hxy⟩
    · obtain rfl := List.mem_singleton.mp hx
      rw [distinct_append_singleton, addNew]
      split
      · next hany => exact .inr (List.any_eq_true.mp hany)
      · exact .inl (List.mem_append_right _ hx)

section
variable {xs : List Value} (hkeys : ∀ x ∈ xs, x.keyFault? = none)
include hkeys

/-- a value is equal to one that is given exactly if it is equal to one that is kept -/
theorem any_distinct {x : Value} (hx : x.keyFault? = none) :
    (distinct xs).any (x.same ·) = xs.any (x.same ·) := by
  rw [Bool.eq_iff_iff, List.any_eq_true, List.any_eq_true]
  constructor
  · rintro ⟨y, hy, hxy⟩
    exact ⟨y, distinct_subset xs hy, hxy⟩
  · rintro ⟨y, hy, hxy⟩
    rcases mem_distinct_or hy with hy' | ⟨z, hz, hyz⟩
    · exact ⟨y, hy', hxy⟩
    · exact ⟨z, hz, same_trans hx (hkeys y hy) hxy hyz⟩

theorem distinct_eq_firsts : distinct xs = firsts xs := by
  induction xs using List.reverseRecOn with
  | nil => rfl
  | append_singleton xs x ih =>
    have hxs : ∀ y ∈ xs, y.keyFault? = none := fun y hy => hkeys y (List.mem_append_left _ hy)
    have hx : x.keyFault? = none := hkeys x (List.mem_append_right _ List.mem_cons_self)
    rw [distinct_append_singleton, firsts_append_singleton, addNew, any_distinct hxs hx, ih hxs]

end

/-- what is kept of the values that are given: the first occurrences, in order -/
structure Reduced (given kept : List Value) : Prop where
  firsts : kept = firsts given
  sublist : kept.Sublist given
  /-- no two that are kept are equal -/
  apart : kept.Pairwise fun x y => x.same y = false ∧ y.same x = false
  /-- one that is given is kept, or there is an equal one that is -/
  covered : ∀ x ∈ given, x ∈ kept ∨ ∃ y ∈ kept, x.same y = true ∧ y.same x = true
  /-- one that holds no NaN is equal to itself, so that an equal one is kept in any case -/
  equal : ∀ x ∈ given, x.hasNaN = false → ∃ y ∈ kept, x.same y = true ∧ y.same x = true

theorem reduced_distinct {xs : List Value} (hkeys : ∀ x ∈ xs, x.keyFault? = none) :
    Reduced xs (distinct xs) := by
  have hkept : ∀ x ∈ distinct xs, x.keyFault? = none := fun x hx => hkeys x (distinct_subset xs hx)
  have hcovered : ∀ x ∈ xs, x ∈ distinct xs ∨ ∃ y ∈ distinct xs, x.same y = true ∧ y.same x = true := by
    refine fun x hx => (mem_distinct_or hx).imp_right fun ⟨y, hy, hxy⟩ => ⟨y, hy, hxy, ?_⟩
    rwa [← same_comm (hkeys x hx) (hkept y hy)]
  refine ⟨distinct_eq_firsts hkeys, ?_, ?_, hcovered, fun x hx hnan => ?_⟩
  · rw [distinct_eq_firsts hkeys]
    exact firsts_sublist xs
  · refine (unrepeated_distinct xs).imp_of_mem fun hx hy hyx => ⟨?_, hyx⟩
    rwa [same_comm (hkept _ hx) (hkept _ hy)]
  · rcases hcovered x hx with hx | h
    · exact ⟨x, hx, same_self x hnan, same_self x hnan⟩
    · exact h

end ContractRisk.Value
