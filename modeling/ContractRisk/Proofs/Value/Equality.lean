import ContractRisk.Proofs.Number.Double

/-!
# Data that are equal to themselves

`Value.same` compares data by value, and NaN is not equal to itself. Data in which no NaN occurs, at any
depth, are (`same_self`): sets and maps too, since each part of them is found among the parts.
-/

namespace ContractRisk.Value

mutual

/-- does NaN occur anywhere in the data? -/
def hasNaN : Value → Bool
  | float x => x.isNaN
  | list xs | tuple xs | set xs => anyNaN xs
  | map es => anyNaNEntry es
  | _ => false

def anyNaN : List Value → Bool
  | [] => false
  | x :: xs => hasNaN x || anyNaN xs

def anyNaNEntry : List (Value × Value) → Bool
  | [] => false
  | (k, v) :: es => hasNaN k || hasNaN v || anyNaNEntry es

end

theorem anyNaN_cons {x : Value} {xs : List Value} :
    anyNaN (x :: xs) = false ↔ hasNaN x = false ∧ anyNaN xs = false := by
  rw [anyNaN, Bool.or_eq_false_iff]

theorem anyNaNEntry_cons {k v : Value} {es : List (Value × Value)} :
    anyNaNEntry ((k, v) :: es) = false ↔
      hasNaN k = false ∧ hasNaN v = false ∧ anyNaNEntry es = false := by
  rw [anyNaNEntry, Bool.or_eq_false_iff, Bool.or_eq_false_iff, and_assoc]

theorem momentSame_self (m : Moment) : momentSame m m = true := by
  unfold momentSame
  cases m.offset <;> simp

mutual

/-- data without NaN are equal to themselves -/
theorem same_self : ∀ v : Value, v.hasNaN = false → same v v = true
  | null, _ => by simp [same]
  | bool b, _ => by simp [same, number?, Number.same]
  | int i, _ => by simp [same, number?, Number.same]
  | float x, h => by
    rw [hasNaN] at h
    simp [same, number?, Number.same, Double.beq_self h]
  | text s, _ => by simp [same]
  | bytes bs, _ => by simp [same]
  | date d, _ => by simp [same]
  | moment m, _ => by simp [same, momentSame_self]
  | list xs, h => by
    rw [hasNaN] at h
    rw [same]
    exact sameAll_self xs h
  | tuple xs, h => by
    rw [hasNaN] at h
    rw [same]
    exact sameAll_self xs h
  | set xs, h => by
    rw [hasNaN] at h
    rw [same, eachAmong_of_subset xs xs h fun x hx => hx]
    simp
  | map es, h => by
    rw [hasNaN] at h
    rw [same, entriesAmong_of_subset es es h fun e he => he]
    simp
  | around isMap, _ => by simp [same]

theorem sameAll_self : ∀ xs : List Value, anyNaN xs = false → sameAll xs xs = true
  | [], _ => by rw [sameAll]
  | x :: xs, h => by
    obtain ⟨hx, hxs⟩ := anyNaN_cons.mp h
    rw [sameAll, same_self x hx, sameAll_self xs hxs]
    rfl

theorem eachAmong_of_subset : ∀ xs ys : List Value, anyNaN xs = false → (∀ x ∈ xs, x ∈ ys) →
    eachAmong xs ys = true
  | [], _, _, _ => by rw [eachAmong]
  | x :: xs, ys, h, hsub => by
    obtain ⟨hx, hxs⟩ := anyNaN_cons.mp h
    have hfound : ys.any (fun y => same x y) = true :=
      List.any_eq_true.mpr ⟨x, hsub x List.mem_cons_self, same_self x hx⟩
    rw [eachAmong, hfound,
      eachAmong_of_subset xs ys hxs fun y hy => hsub y (List.mem_cons_of_mem x hy)]
    rfl

theorem entriesAmong_of_subset : ∀ es fs : List (Value × Value), anyNaNEntry es = false →
    (∀ e ∈ es, e ∈ fs) → entriesAmong es fs = true
  | [], _, _, _ => by rw [entriesAmong]
  | (k, v) :: es, fs, h, hsub => by
    obtain ⟨hk, hv, hes⟩ := anyNaNEntry_cons.mp h
    have hfound : fs.any (fun f => same k f.1 && same v f.2) = true := by
      refine List.any_eq_true.mpr ⟨(k, v), hsub (k, v) List.mem_cons_self, ?_⟩
      rw [same_self k hk, same_self v hv]
      rfl
    rw [entriesAmong, hfound,
      entriesAmong_of_subset es fs hes fun e he => hsub e (List.mem_cons_of_mem _ he)]
    rfl

end

/-- one entry that is not found makes maps differ -/
theorem entriesAmong_of_mem {es fs : List (Value × Value)} {e : Value × Value} (he : e ∈ es)
    (h : ∀ f ∈ fs, (same e.1 f.1 && same e.2 f.2) = false) : entriesAmong es fs = false := by
  induction es with
  | nil => exact nomatch he
  | cons e' es ih =>
    rw [entriesAmong]
    rcases List.mem_cons.mp he with rfl | he
    · rw [List.any_eq_false.mpr fun f hf => Bool.not_eq_true _ ▸ h f hf, Bool.false_and]
    · rw [ih he, Bool.and_false]

/-! ## maps with texts for keys -/

theorem hasNaN_text (s : String) : (text s).hasNaN = false := by simp [hasNaN]

theorem hasNaN_int (i : Int) : (int i).hasNaN = false := by simp [hasNaN]

theorem hasNaN_scalar {x : Float} (h : x.isNaN = false) : (scalarValue x).hasNaN = false := by
  unfold scalarValue
  rw [hasNaN]
  exact h

theorem hasNaN_textMap {fs : List (String × Value)} :
    (textMap fs).hasNaN = false ↔ ∀ f ∈ fs, f.2.hasNaN = false := by
  unfold textMap
  rw [hasNaN]
  induction fs with
  | nil => simp [anyNaNEntry]
  | cons f fs ih =>
    rw [List.map_cons, anyNaNEntry_cons, ih, List.forall_mem_cons]
    simp [hasNaN]

theorem hasNaN_texts (ss : List String) : (list (ss.map text)).hasNaN = false := by
  rw [hasNaN]
  induction ss with
  | nil => rfl
  | cons s ss ih =>
    rw [List.map_cons, anyNaN_cons]
    exact ⟨hasNaN_text s, ih⟩

end ContractRisk.Value
