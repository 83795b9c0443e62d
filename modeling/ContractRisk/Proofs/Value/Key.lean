import ContractRisk.Proofs.Number.Equal
import ContractRisk.Proofs.Value.Equality

/-!
# Equality of keys

A `Key` is what remains of a value that can be a key if all is left out in which equal values differ: of a
number its kind, as far as it is whole, and of a moment with an offset all but its instant. Values that can
be keys are equal exactly if they have the same key and hold no NaN (`same_iff_key`). So equality is symmetric
(`same_comm`) and transitive (`same_trans`), also between truth values, whole numbers and doubles.
-/

namespace ContractRisk.Value

/-! ## numbers -/

namespace Number

inductive Form where
  | whole (i : ℤ)
  | other (x : Float)

/-- a number in the form in which it is compared -/
def form : Number → Form
  | exact i => .whole i
  | double x => (Binary64.whole? x).elim (.other x) .whole

def isNaN : Number → Bool
  | exact _ => false
  | double x => x.isNaN

theorem form_eq_whole_iff {x : Float} {i : ℤ} :
    (double x).form = .whole i ↔ Binary64.whole? x = some i := by
  cases h : Binary64.whole? x <;> simp [form, h]

theorem form_eq_other_iff {x y : Float} :
    (double x).form = .other y ↔ Binary64.whole? x = none ∧ x = y := by
  cases h : Binary64.whole? x <;> simp [form, h]

theorem beq_iff_form {x y : Float} : (x == y) = true ↔
    (double x).form = (double y).form ∧ x.isNaN = false ∧ y.isNaN = false := by
  rw [Binary64.beq_iff_whole?]
  constructor
  · rintro (⟨i, hx, hy⟩ | ⟨_, rfl, hnan⟩)
    · exact ⟨(form_eq_whole_iff.mpr hx).trans (form_eq_whole_iff.mpr hy).symm, Binary64.isNaN_of_whole? hx,
        Binary64.isNaN_of_whole? hy⟩
    · exact ⟨rfl, hnan, hnan⟩
  · rintro ⟨hform, hnan, _⟩
    cases hy : (double y).form with
    | whole i =>
      exact .inl ⟨i, form_eq_whole_iff.mp (hform.trans hy), form_eq_whole_iff.mp hy⟩
    | other z =>
      obtain ⟨hx, rfl⟩ := form_eq_other_iff.mp (hform.trans hy)
      exact .inr ⟨hx, (form_eq_other_iff.mp hy).2.symm, hnan⟩

/-- a whole number is equal to a double that stands for it -/
theorem exact_same_double {i : ℤ} {x : Float} : (exact i).same (double x) = true ↔
    (exact i).form = (double x).form ∧ x.isNaN = false := by
  rw [same, beq_iff_eq, eq_comm (a := (exact i).form)]
  exact ⟨fun h => ⟨form_eq_whole_iff.mpr h, Binary64.isNaN_of_whole? h⟩, fun h => form_eq_whole_iff.mp h.1⟩

theorem same_iff {m n : Number} :
    m.same n = true ↔ m.form = n.form ∧ m.isNaN = false ∧ n.isNaN = false := by
  cases m with
  | exact i =>
    cases n with
    | exact j => simp [same, form, isNaN]
    | double y => exact exact_same_double.trans ⟨fun h => ⟨h.1, rfl, h.2⟩, fun h => ⟨h.1, h.2.2⟩⟩
  | double x =>
    cases n with
    | exact j =>
      show (exact j).same (double x) = true ↔ _
      exact exact_same_double.trans ⟨fun h => ⟨h.1.symm, h.2, rfl⟩, fun h => ⟨h.1.symm, h.2.1⟩⟩
    | double y => exact beq_iff_form

end Number

/-! ## moments -/

/-- a moment by its instant, or as the clock shows it if it has no offset -/
def momentKey (m : Moment) : Moment ⊕ ℤ := if m.offset.isSome then .inr m.toMicros else .inl m

theorem momentSame_iff (a b : Moment) : momentSame a b = true ↔ momentKey a = momentKey b := by
  unfold momentSame momentKey
  cases a.offset <;> cases b.offset <;> simp

/-! ## values -/

inductive Key where
  | null
  | number (f : Number.Form)
  | text (s : String)
  | bytes (bs : List UInt8)
  | date (d : Date)
  | moment (m : Moment ⊕ ℤ)
  | tuple (ks : List Key)
  /-- lists, sets and maps cannot be keys -/
  | unfit

mutual

def key : Value → Key
  | null => .null
  | bool b => .number (Number.exact b.toNat).form
  | int i => .number (Number.exact i).form
  | float x => .number (Number.double x).form
  | text s => .text s
  | bytes bs => .bytes bs
  | date d => .date d
  | moment m => .moment (momentKey m)
  | tuple xs => .tuple (keys xs)
  | list _ | set _ | map _ | around _ => .unfit

def keys : List Value → List Key
  | [] => []
  | x :: xs => key x :: keys xs

end

mutual

/-- equality to a value that can be a key -/
theorem same_iff_key : ∀ x y : Value, x.keyFault? = none →
    (same x y = true ↔ x.key = y.key ∧ x.hasNaN = false ∧ y.hasNaN = false)
  | null, y, _ => by cases y <;> simp [same, key, hasNaN, number?]
  | bool b, y, _ => by cases y <;> simp [same, key, hasNaN, number?, Number.same_iff, Number.isNaN]
  | int i, y, _ => by cases y <;> simp [same, key, hasNaN, number?, Number.same_iff, Number.isNaN]
  | float x, y, _ => by cases y <;> simp [same, key, hasNaN, number?, Number.same_iff, Number.isNaN]
  | text s, y, _ => by cases y <;> simp [same, key, hasNaN, number?]
  | bytes bs, y, _ => by cases y <;> simp [same, key, hasNaN, number?]
  | date d, y, _ => by cases y <;> simp [same, key, hasNaN, number?]
  | moment m, y, _ => by cases y <;> simp [same, key, hasNaN, number?, momentSame_iff]
  | tuple xs, y, h => by
    rw [keyFault?] at h
    cases y <;> simp [same, key, hasNaN, number?, sameAll_iff_keys xs _ h]
  | list xs, _, h => by simp [keyFault?] at h
  | set xs, _, h => by simp [keyFault?] at h
  | map es, _, h => by simp [keyFault?] at h
  | around isMap, _, h => by simp [keyFault?] at h

theorem sameAll_iff_keys : ∀ xs ys : List Value, keyFaultAmong? xs = none →
    (sameAll xs ys = true ↔ keys xs = keys ys ∧ anyNaN xs = false ∧ anyNaN ys = false)
  | [], ys, _ => by cases ys <;> simp [sameAll, keys, anyNaN]
  | x :: xs, ys, h => by
    rw [keyFaultAmong?, Option.or_eq_none_iff] at h
    cases ys with
    | nil => simp [sameAll, keys]
    | cons y ys =>
      rw [sameAll, Bool.and_eq_true, same_iff_key x y h.1, sameAll_iff_keys xs ys h.2, keys, keys,
        List.cons.injEq, anyNaN_cons, anyNaN_cons]
      tauto

end

variable {x y z : Value}

theorem same_comm (hx : x.keyFault? = none) (hy : y.keyFault? = none) : same x y = same y x := by
  rw [Bool.eq_iff_iff, same_iff_key x y hx, same_iff_key y x hy, eq_comm, and_comm (a := x.hasNaN = false)]

theorem same_trans (hx : x.keyFault? = none) (hy : y.keyFault? = none) (hxy : same x y = true)
    (hyz : same y z = true) : same x z = true := by
  obtain ⟨hkey, hnan, _⟩ := (same_iff_key x y hx).mp hxy
  obtain ⟨hkey', _, hnan'⟩ := (same_iff_key y z hy).mp hyz
  exact (same_iff_key x z hx).mpr ⟨hkey.trans hkey', hnan, hnan'⟩

end ContractRisk.Value
