import ContractRisk.Proofs.Bundle.Fields
import Mathlib.Data.List.Dedup
import Mathlib.Data.List.Pairwise

/-!
# Spellings of keys

The fields of a bundle and of its parts are known by several keys. A `Model` tells which keys spell which
field and what the data of a field may be replaced by. `Model.Rekeyed` relates objects that differ in the keys
of their fields, at any depth, and, where other keys are passed over, in keys that spell no field.

* `Kin.spelled?`   such objects have the same fields, with data that are alike, if no field is spelled twice;
* `Rekeyed.others_eq`   where other keys are kept, they have the same ones.
-/

namespace ContractRisk
open Check

/-! ## names -/

/-- underscores go, and the letters behind them become capitals -/
def camelChars : List Char → List Char
  | '_' :: c :: cs => c.toUpper :: camelChars cs
  | c :: cs => c :: camelChars cs
  | [] => []

/-- a name of words joined by underscores, in camel case -/
def camelCase (name : String) : String := String.ofList (camelChars name.toList)

/-! ## models -/

/-- which data may take the place of which; null stands for itself only -/
structure Likeness where
  Alike : Value → Value → Prop
  refl : ∀ v, Alike v v
  null_iff : ∀ {v v'}, Alike v v' → (v = .null ↔ v' = .null)

namespace Likeness

/-- the same data -/
def same : Likeness where
  Alike := Eq
  refl _ := rfl
  null_iff h := by rw [h]

/-- lists of as many items, each like the one at its place -/
def list (l : Likeness) : Likeness where
  Alike v v' := v = v' ∨ ∃ xs xs', v = .list xs ∧ v' = .list xs' ∧ List.Forall₂ l.Alike xs xs'
  refl _ := .inl rfl
  null_iff := by
    rintro v v' (rfl | ⟨xs, xs', rfl, rfl, _⟩)
    · exact Iff.rfl
    · exact ⟨nofun, nofun⟩

end Likeness

/-- a field: the keys that spell it and what its data may be replaced by -/
structure Slot where
  spellings : List String
  likeness : Likeness

namespace Slot

/-- a field by its name in camel case and in snake case -/
def named (name : String) (likeness : Likeness := .same) : Slot :=
  ⟨[camelCase name, name].dedup, likeness⟩

/-- the entries that spell the field -/
def among (s : Slot) (fs : Fields) : Fields := fs.filter fun f => s.spellings.contains f.1

end Slot

/-- the fields of an object; no key spells two of them -/
structure Model where
  slots : List Slot
  /-- are keys that spell no field kept? -/
  keepsOthers : Bool
  apart : (slots.flatMap Slot.spellings).Nodup

namespace Model

/-- does the key spell one of the fields? -/
def Spells (m : Model) (k : String) : Prop := ∃ s ∈ m.slots, k ∈ s.spellings

instance (m : Model) (k : String) : Decidable (m.Spells k) :=
  inferInstanceAs (Decidable (∃ s ∈ m.slots, k ∈ s.spellings))

/-- the entries that spell none of the fields -/
def others (m : Model) (fs : Fields) : Fields := fs.filter fun f => !decide (m.Spells f.1)

/-- is no field spelled twice? -/
def SpelledOnce (m : Model) (fs : Fields) : Prop := ∀ s ∈ m.slots, (s.among fs).length ≤ 1

instance (m : Model) (fs : Fields) : Decidable (m.SpelledOnce fs) :=
  inferInstanceAs (Decidable (∀ s ∈ m.slots, (s.among fs).length ≤ 1))

/-- the same object with other spellings of its fields, and with further keys if they are passed over -/
inductive Rekeyed (m : Model) : Fields → Fields → Prop
  | nil : Rekeyed m [] []
  | field {s : Slot} {k k' : String} {v v' : Value} {fs gs : Fields} (hs : s ∈ m.slots)
      (hk : k ∈ s.spellings) (hk' : k' ∈ s.spellings) (hv : s.likeness.Alike v v')
      (h : Rekeyed m fs gs) : Rekeyed m ((k, v) :: fs) ((k', v') :: gs)
  | other {f : String × Value} {fs gs : Fields} (hf : ¬ m.Spells f.1) (h : Rekeyed m fs gs) :
      Rekeyed m (f :: fs) (f :: gs)
  | added {f : String × Value} {fs gs : Fields} (hothers : m.keepsOthers = false)
      (hf : ¬ m.Spells f.1) (h : Rekeyed m fs gs) : Rekeyed m fs (f :: gs)

/-- the same object, perhaps with other keys if each field is spelled once -/
def Kin (m : Model) (fs gs : Fields) : Prop := fs = gs ∨ m.SpelledOnce fs ∧ m.Rekeyed fs gs

def likeness (m : Model) : Likeness where
  Alike v v' := v = v' ∨ ∃ fs gs, v = textMap fs ∧ v' = textMap gs ∧ m.SpelledOnce fs ∧ m.Rekeyed fs gs
  refl _ := .inl rfl
  null_iff := by
    rintro v v' (rfl | ⟨fs, gs, rfl, rfl, _⟩)
    · exact Iff.rfl
    · exact ⟨nofun, nofun⟩

end Model

/-! ## the fields of kindred objects -/

namespace Slot

theorem mem_among {s : Slot} {fs : Fields} {f : String × Value} :
    f ∈ s.among fs ↔ f ∈ fs ∧ f.1 ∈ s.spellings := by
  unfold among
  rw [List.mem_filter, List.contains_iff_mem]

theorem among_cons_of_mem {s : Slot} {f : String × Value} (h : f.1 ∈ s.spellings) (fs : Fields) :
    s.among (f :: fs) = f :: s.among fs := List.filter_cons_of_pos (List.contains_iff_mem.mpr h)

theorem among_cons_of_not_mem {s : Slot} {f : String × Value} (h : f.1 ∉ s.spellings) (fs : Fields) :
    s.among (f :: fs) = s.among fs :=
  List.filter_cons_of_neg fun hk => h (List.contains_iff_mem.mp hk)

theorem among_eq_singleton {s : Slot} {fs : Fields} {f : String × Value} (h : (s.among fs).length ≤ 1)
    (hf : f ∈ s.among fs) : s.among fs = [f] := by
  obtain ⟨g, hg⟩ := List.length_eq_one_iff.mp (Nat.le_antisymm h (List.length_pos_of_mem hf))
  rw [hg] at hf ⊢
  rw [List.mem_singleton.mp hf]

/-- a field that is spelled once is found by any of its spellings -/
theorem spelled?_eq {s : Slot} {fs : Fields} (h : (s.among fs).length ≤ 1) :
    spelled? s.spellings fs = (s.among fs).head? := by
  cases hfound : spelled? s.spellings fs with
  | some f =>
    have hf : f ∈ s.among fs := mem_among.mpr ⟨mem_of_spelled? hfound, key_mem_of_spelled? hfound⟩
    rw [among_eq_singleton h hf]
    rfl
  | none =>
    have hnil : s.among fs = [] := List.eq_nil_iff_forall_not_mem.mpr fun f hf => by
      obtain ⟨hmem, hkey⟩ := mem_among.mp hf
      have hnone := spelled?_eq_none_iff.mp hfound f.1 hkey
      exact find?_eq_none_iff.mp hnone (List.mem_map_of_mem hmem)
    rw [hnil]
    rfl

end Slot

namespace Model

variable {m : Model} {s t : Slot} {k : String} {fs gs : Fields}

/-- a key spells one field only -/
theorem slot_unique (hs : s ∈ m.slots) (ht : t ∈ m.slots) (hk : k ∈ s.spellings) (hk' : k ∈ t.spellings) :
    s = t := by
  by_contra hne
  have hsymm : Std.Symm (Function.onFun List.Disjoint Slot.spellings) := ⟨fun _ _ h => h.symm⟩
  exact (List.nodup_flatMap.mp m.apart).2.forall hs ht hne hk hk'

/-- the entries of a field are alike, one by one -/
theorem Rekeyed.among (h : m.Rekeyed fs gs) (hs : s ∈ m.slots) :
    List.Forall₂ (fun f g => s.likeness.Alike f.2 g.2) (s.among fs) (s.among gs) := by
  induction h with
  | nil => exact .nil
  | @field t k k' v v' fs gs ht hk hk' hv _ ih =>
    by_cases heq : t = s
    · subst heq
      rw [Slot.among_cons_of_mem hk, Slot.among_cons_of_mem hk']
      exact .cons hv ih
    · have hother : ∀ k ∈ t.spellings, k ∉ s.spellings := fun k hk hks => heq (slot_unique ht hs hk hks)
      rw [Slot.among_cons_of_not_mem (hother k hk), Slot.among_cons_of_not_mem (hother k' hk')]
      exact ih
  | other hf _ ih =>
    have hout := fun hk => hf ⟨s, hs, hk⟩
    rw [Slot.among_cons_of_not_mem hout, Slot.among_cons_of_not_mem hout]
    exact ih
  | added _ hf _ ih =>
    rw [Slot.among_cons_of_not_mem fun hk => hf ⟨s, hs, hk⟩]
    exact ih

theorem Rekeyed.spelledOnce (h : m.Rekeyed fs gs) (honce : m.SpelledOnce fs) : m.SpelledOnce gs :=
  fun s hs => (h.among hs).length_eq ▸ honce s hs

theorem others_cons_of_spells {f : String × Value} (h : m.Spells f.1) (fs : Fields) :
    m.others (f :: fs) = m.others fs := List.filter_cons_of_neg (by simp [h])

theorem others_cons_of_not_spells {f : String × Value} (h : ¬ m.Spells f.1) (fs : Fields) :
    m.others (f :: fs) = f :: m.others fs := List.filter_cons_of_pos (by simp [h])

/-- a model that keeps other keys has the same ones in both -/
theorem Rekeyed.others_eq (h : m.Rekeyed fs gs) (hkeeps : m.keepsOthers = true) :
    m.others fs = m.others gs := by
  induction h with
  | nil => rfl
  | field hs hk hk' _ _ ih => rw [others_cons_of_spells ⟨_, hs, hk⟩, others_cons_of_spells ⟨_, hs, hk'⟩, ih]
  | other hf _ ih => rw [others_cons_of_not_spells hf, others_cons_of_not_spells hf, ih]
  | added hothers _ _ _ => exact nomatch hkeeps.symm.trans hothers

/-- kindred objects have the same fields, with data that are alike -/
theorem Kin.spelled? (h : m.Kin fs gs) (hs : s ∈ m.slots) :
    Option.Rel (fun f g => s.likeness.Alike f.2 g.2) (spelled? s.spellings fs)
      (spelled? s.spellings gs) := by
  rcases h with rfl | ⟨honce, hrekeyed⟩
  · cases spelled? s.spellings fs with
    | none => exact .none
    | some f => exact .some (s.likeness.refl f.2)
  · have hamong := hrekeyed.among hs
    rw [Slot.spelled?_eq (honce s hs), Slot.spelled?_eq (hrekeyed.spelledOnce honce s hs)]
    generalize s.among fs = fs', s.among gs = gs' at hamong ⊢
    cases hamong with
    | nil => exact .none
    | cons hv _ => exact .some hv

end Model

/-! ## the parts of a bundle -/

/-- keys beyond the fields are kept -/
def AbiEntry.model : Model where
  slots := [.named "name", .named "type", .named "state_mutability", .named "inputs", .named "outputs"]
  keepsOthers := true
  apart := by decide

def HolderShare.model : Model where
  slots := [.named "address", .named "percentage"]
  keepsOthers := false
  apart := by decide

def LiquidityMetrics.model : Model where
  slots := [.named "locked_percentage", .named "has_timelock", .named "owner_can_remove"]
  keepsOthers := false
  apart := by decide

def TokenMetrics.model : Model where
  slots := [.named "top_holders" HolderShare.model.likeness.list,
    .named "liquidity" LiquidityMetrics.model.likeness]
  keepsOthers := false
  apart := by decide

def TeamMetrics.model : Model where
  slots := [.named "stock_photos_detected", .named "linkedin_profiles_valid", .named "consistency_score"]
  keepsOthers := false
  apart := by decide

def WebsiteMetrics.model : Model where
  slots := [.named "similarity_to_legit_project", .named "content_copied_score",
    .named "branding_copied_score"]
  keepsOthers := false
  apart := by decide

def SocialMetrics.model : Model where
  slots := [.named "team" TeamMetrics.model.likeness, .named "website" WebsiteMetrics.model.likeness,
    .named "bot_follower_percentage", .named "coordinated_posting_score", .named "organic_growth_score"]
  keepsOthers := false
  apart := by decide

/-- the two addresses have a third spelling -/
def TransactionRecord.model : Model where
  slots := [.named "hash", ⟨["from_address", "fromAddress", "from"], .same⟩,
    ⟨["to_address", "toAddress", "to"], .same⟩, .named "value", .named "method", .named "success"]
  keepsOthers := false
  apart := by decide

def Bundle.model : Model where
  slots := [.named "address", .named "network", .named "bytecode", .named "source_code",
    .named "abi" AbiEntry.model.likeness.list, .named "metadata",
    .named "transactions" TransactionRecord.model.likeness.list,
    .named "token_metrics" TokenMetrics.model.likeness,
    .named "social_metrics" SocialMetrics.model.likeness]
  keepsOthers := false
  apart := by decide

end ContractRisk
