import ContractRisk.Bundle.Reading
import ContractRisk.Bundle.View
import ContractRisk.Proofs.Finding.Making
import Mathlib.Data.List.Nodup

/-!
# Fields that are read back

A record is written with the fields that are there, and a field is looked up by its spellings when the record
is read. `Check.Restores check f y` says that `check` gets `y` back from the data `f y`.

* `field_present`, `field_present_optional`   a field is read back from a record if its key is one of the
  spellings and no other key of the record is;
* `restores_list`   a list is read back if its items are;
* `field_eq_ok`     what is read as a field is there, or stands for a field that is missing.
-/

namespace ContractRisk

namespace Check

variable {β γ : Type}

/-! ## look-up -/

theorem find?_append (k : String) (fs gs : Fields) :
    find? k (fs ++ gs) = (find? k fs).or (find? k gs) := by
  induction fs with
  | nil => rfl
  | cons f fs ih =>
    rw [List.cons_append, find?, find?]
    by_cases hk : f.1 = k
    · rw [if_pos hk, if_pos hk]
      rfl
    · rw [if_neg hk, if_neg hk, ih]

theorem find?_eq_none_iff {k : String} {fs : Fields} : find? k fs = none ↔ k ∉ fs.map Prod.fst := by
  induction fs with
  | nil => exact ⟨fun _ h => (nomatch h), fun _ => rfl⟩
  | cons f fs ih =>
    rw [find?, List.map_cons, List.mem_cons, not_or, ← ih]
    by_cases hk : f.1 = k
    · rw [if_pos hk]
      exact ⟨fun h => (nomatch h), fun h => absurd hk.symm h.1⟩
    · rw [if_neg hk]
      exact ⟨fun h => ⟨Ne.symm hk, h⟩, And.right⟩

theorem mem_of_find? {k : String} {fs : Fields} {v : Value} (h : find? k fs = some v) :
    (k, v) ∈ fs := by
  induction fs with
  | nil => exact nomatch h
  | cons f fs ih =>
    unfold find? at h
    split at h
    · next hk =>
      cases h
      exact hk ▸ List.mem_cons_self
    · exact List.mem_cons_of_mem _ (ih h)

theorem spelled?_eq_none_iff {spellings : List String} {fs : Fields} :
    spelled? spellings fs = none ↔ ∀ k ∈ spellings, find? k fs = none := by
  unfold spelled?
  simp only [List.findSome?_eq_none_iff, Option.map_eq_none_iff]

/-- a field is found under its key if no other of its spellings is there -/
theorem spelled?_of_find? {spellings : List String} {fs : Fields} {key : String}
    (hkey : key ∈ spellings) (hothers : ∀ k ∈ spellings, k ≠ key → find? k fs = none) :
    spelled? spellings fs = (find? key fs).map fun v => (key, v) := by
  induction spellings with
  | nil => exact nomatch hkey
  | cons s ss ih =>
    obtain ⟨hs, hss⟩ := List.forall_mem_cons.mp hothers
    rw [spelled?, List.findSome?_cons]
    by_cases heq : s = key
    · subst heq
      cases hfound : find? s fs with
      | some v => rfl
      | none =>
        refine spelled?_eq_none_iff.mpr fun k hk => ?_
        by_cases hks : k = s
        · rw [hks, hfound]
        · exact hss k hk hks
    · rw [hs heq]
      exact ih ((List.mem_cons.mp hkey).resolve_left (Ne.symm heq)) hss

theorem spelled?_cons (key : String) (spellings : List String) (fs : Fields) :
    spelled? (key :: spellings) fs =
      ((find? key fs).map fun v => (key, v)).or (spelled? spellings fs) := by
  rw [spelled?, List.findSome?_cons]
  cases find? key fs <;> rfl

/-- more entries add nothing if none of their keys is a spelling -/
theorem spelled?_append {spellings : List String} {fs gs : Fields}
    (h : ∀ k ∈ spellings, k ∉ gs.map Prod.fst) : spelled? spellings (fs ++ gs) = spelled? spellings fs := by
  induction spellings with
  | nil => rfl
  | cons k ks ih =>
    obtain ⟨hk, hks⟩ := List.forall_mem_cons.mp h
    rw [spelled?_cons, spelled?_cons, find?_append, find?_eq_none_iff.mpr hk, Option.or_none, ih hks]

theorem mem_of_spelled? {spellings : List String} {fs : Fields} {found : String × Value}
    (h : spelled? spellings fs = some found) : found ∈ fs := by
  obtain ⟨k, _, hfound⟩ := List.exists_of_findSome?_eq_some h
  obtain ⟨v, hv, rfl⟩ := Option.map_eq_some_iff.mp hfound
  exact mem_of_find? hv

theorem key_mem_of_spelled? {spellings : List String} {fs : Fields} {found : String × Value}
    (h : spelled? spellings fs = some found) : found.1 ∈ spellings := by
  obtain ⟨k, hk, hfound⟩ := List.exists_of_findSome?_eq_some h
  obtain ⟨v, _, rfl⟩ := Option.map_eq_some_iff.mp hfound
  exact hk

/-! ## fields that are there -/

theorem present_keys (own : List (String × Option Value)) :
    List.Sublist ((present own).map Prod.fst) (own.map Prod.fst) := by
  induction own with
  | nil => exact .slnil
  | cons f own ih =>
    obtain ⟨k, x⟩ := f
    cases x with
    | none => exact ih.cons k
    | some v => exact ih.cons_cons k

theorem mem_present {own : List (String × Option Value)} {f : String × Value}
    (h : f ∈ present own) : (f.1, some f.2) ∈ own := by
  obtain ⟨g, hg, hf⟩ := List.mem_filterMap.mp h
  obtain ⟨v, hv, rfl⟩ := Option.map_eq_some_iff.mp hf
  rw [← hv]
  exact hg

theorem find?_present {own : List (String × Option Value)} (hkeys : (own.map Prod.fst).Nodup)
    {k : String} {x : Option Value} (h : (k, x) ∈ own) : find? k (present own) = x := by
  induction own with
  | nil => exact nomatch h
  | cons f own ih =>
    obtain ⟨hf, hown⟩ := List.nodup_cons.mp hkeys
    have hcons : find? k (present (f :: own)) =
        (find? k (present [f])).or (find? k (present own)) := by
      rw [← find?_append, present, present, present, ← List.filterMap_append]
      rfl
    rw [hcons]
    rcases List.mem_cons.mp h with rfl | h
    · have hnone : find? k (present own) = none :=
        find?_eq_none_iff.mpr fun hk => hf ((present_keys own).subset hk)
      rw [hnone, Option.or_none]
      cases x with
      | none => rfl
      | some v => exact if_pos rfl
    · have hnone : find? k (present [f]) = none := find?_eq_none_iff.mpr fun hk => by
        obtain rfl := List.mem_singleton.mp ((present_keys [f]).subset hk)
        exact hf (List.mem_map.mpr ⟨_, h, rfl⟩)
      rw [hnone, ih hown h, Option.none_or]

/-- of the keys of a record, the spellings have this one and no other -/
structure Spells (keys : List String) (key : String) (spellings : List String) : Prop where
  nodup : keys.Nodup
  mem : key ∈ spellings
  others : ∀ k ∈ spellings, k ∈ keys → k = key

theorem spelled?_present {own : List (String × Option Value)} {spellings : List String}
    {key : String} {x : Option Value} (h : (key, x) ∈ own)
    (hspells : Spells (own.map Prod.fst) key spellings) :
    spelled? spellings (present own) = x.map fun v => (key, v) := by
  rw [spelled?_of_find? hspells.mem, find?_present hspells.nodup h]
  exact fun k hk hne => find?_eq_none_iff.mpr fun hmem =>
    hne (hspells.others k hk ((present_keys own).subset hmem))

/-! ## checks that read back -/

/-- the check gets `y` back from its data, which are not null -/
structure Restores (check : List String → Value → Check β) (f : β → Value) (y : β) : Prop where
  reads : ∀ path, check path (f y) = .ok y
  there : f y ≠ .null

theorem map_ok {f : β → γ} {x : Check β} {y : β} (h : x = .ok y) : f <$> x = .ok (f y) := by
  rw [h]
  rfl

theorem seq_ok {f : Check (β → γ)} {x : Check β} {g : β → γ} {y : β} (hf : f = .ok g)
    (hx : x = .ok y) : f <*> x = .ok (g y) := by
  rw [hf, hx]
  rfl

section
variable {fs : Fields} {path spellings : List String} {key : String} {f : β → Value}
  {check : List String → Value → Check β}

theorem field_restored {absent : Check β} {y : β}
    (hspelled : spelled? spellings fs = some (key, f y)) (h : Restores check f y) :
    field fs path spellings absent check = .ok y := by
  rw [field, hspelled]
  exact h.reads _

theorem optional_restored {y : β} (h : Restores check f y) :
    optional check path (f y) = .ok (some y) := by
  have hreads : some <$> check path (f y) = .ok (some y) := map_ok (h.reads path)
  have hthere := h.there
  generalize f y = v at hreads hthere ⊢
  cases v with
  | null => exact absurd rfl hthere
  | _ => exact hreads

theorem field_optional_restored {y : Option β}
    (hspelled : spelled? spellings fs = (y.map f).map fun v => (key, v))
    (h : ∀ z, y = some z → Restores check f z) :
    field fs path spellings (.ok none) (optional check) = .ok y := by
  unfold field
  rw [hspelled]
  cases y with
  | none => rfl
  | some z => exact optional_restored (h z rfl)

variable {own : List (String × Option Value)}

/-- the field at place `i` of a record; its spellings are compared with the keys of the record -/
theorem field_present (i : Nat) {absent : Check β} {y : β}
    (h : own[i]? = some (key, some (f y))) (hcheck : Restores check f y)
    (hspells : Spells (own.map Prod.fst) key spellings := by constructor <;> simp) :
    field (present own) path spellings absent check = .ok y :=
  field_restored (spelled?_present (List.mem_of_getElem? h) hspells) hcheck

theorem field_present_optional (i : Nat) {y : Option β} (h : own[i]? = some (key, y.map f))
    (hcheck : ∀ z, y = some z → Restores check f z)
    (hspells : Spells (own.map Prod.fst) key spellings := by constructor <;> simp) :
    field (present own) path spellings (.ok none) (optional check) = .ok y :=
  field_optional_restored (spelled?_present (List.mem_of_getElem? h) hspells) hcheck

end

/-! ## scalars and containers -/

theorem restores_text (s : String) : Restores text .text s := ⟨fun _ => rfl, nofun⟩

theorem restores_integer (i : Int) : Restores integer .int i := ⟨fun _ => rfl, nofun⟩

theorem restores_boolean (b : Bool) : Restores boolean .bool b := ⟨fun _ => rfl, nofun⟩

theorem restores_scalar (x : Float) : Restores checkScalar scalarValue x := ⟨fun _ => rfl, nofun⟩

theorem fieldsOf_texts (fs : Fields) : fieldsOf (fs.map fun f => (.text f.1, f.2)) = fs := by
  rw [fieldsOf, List.filterMap_map]
  exact List.filterMap_some

theorem keyed_texts (refusal : Value → Problem) (fs : Fields) :
    keyed refusal (fs.map fun f => (.text f.1, f.2)) = .ok fs := by
  induction fs with
  | nil => rfl
  | cons f fs ih => exact seq_ok (map_ok rfl) ih

theorem overlay_append {fs gs : Fields} (h : ((fs ++ gs).map Prod.fst).Nodup) :
    overlay fs gs = fs ++ gs := by
  induction gs generalizing fs with
  | nil => exact (List.append_nil fs).symm
  | cons g gs ih =>
    have hfresh : fs.any (·.1 == g.1) = false := by
      rw [List.any_eq_false]
      intro f hf heq
      rw [List.map_append, List.nodup_append] at h
      exact h.2.2 f.1 (List.mem_map_of_mem hf) g.1 List.mem_cons_self (eq_of_beq heq)
    rw [List.append_cons] at h ⊢
    rw [← ih h]
    unfold overlay
    rw [List.foldl_cons, hfresh]
    rfl

/-- entries with a key each are kept as they are -/
theorem overlay_nil {fs : Fields} (h : (fs.map Prod.fst).Nodup) : overlay [] fs = fs := overlay_append h

variable (medium : Medium)

theorem record_textMap (model : String) (path : List String) (fs : Fields) :
    record medium model path (textMap fs) = .ok fs := congrArg Except.ok (fieldsOf_texts fs)

theorem restores_fields {fs : Fields} (h : (fs.map Prod.fst).Nodup) : Restores (fields medium) textMap fs :=
  ⟨fun _ => (map_ok (keyed_texts _ fs)).trans (congrArg Except.ok (overlay_nil h)), nofun⟩

theorem each_restored {check : List String → Value → Check β} {f : β → Value} {ys : List β}
    (h : ∀ y ∈ ys, Restores check f y) (path : List String) (i : Nat) :
    each path check i (ys.map f) = .ok ys := by
  induction ys generalizing i with
  | nil => rfl
  | cons y ys ih =>
    obtain ⟨hy, hys⟩ := List.forall_mem_cons.mp h
    exact seq_ok (map_ok (hy.reads _)) (ih hys _)

theorem restores_list {check : List String → Value → Check β} {f : β → Value} {ys : List β}
    (h : ∀ y ∈ ys, Restores check f y) :
    Restores (list medium check) (fun ys => .list (ys.map f)) ys :=
  ⟨fun path => each_restored h path 0, nofun⟩

/-! ## what a check has read -/

section
variable {check : List String → Value → Check β} {path : List String} {v : Value}

theorem each_eq_ok {i : Nat} {xs : List Value} {ys : List β} (h : each path check i xs = .ok ys) :
    List.Forall₂ (fun x y => ∃ path, check path x = .ok y) xs ys := by
  induction xs generalizing i ys with
  | nil =>
    cases h
    exact .nil
  | cons x xs ih =>
    unfold each at h
    simp only [seq_eq_ok, map_eq_ok] at h
    obtain ⟨_, ⟨y, hy, rfl⟩, ys, hys, rfl⟩ := h
    exact .cons ⟨_, hy⟩ (ih hys)

theorem optional_eq_ok {y : Option β} (h : optional check path v = .ok y) :
    ∀ z, y = some z → check path v = .ok z := by
  rintro z rfl
  have hsome : some <$> check path v = .ok (some z) := by
    cases v with
    | null => exact nomatch h
    | _ => exact h
  obtain ⟨w, hw, heq⟩ := map_eq_ok.mp hsome
  exact Option.some.inj heq ▸ hw

variable {fs : Fields} {spellings : List String}

theorem field_eq_ok {absent : Check β} {y : β} (h : field fs path spellings absent check = .ok y) :
    absent = .ok y ∨ ∃ f ∈ fs, ∃ path, check path f.2 = .ok y := by
  unfold field at h
  split at h
  · next hfound => exact .inr ⟨_, mem_of_spelled? hfound, _, h⟩
  · exact .inl h

theorem required_eq_ok {y : β} (h : required fs path spellings check = .ok y) :
    ∃ f ∈ fs, ∃ path, check path f.2 = .ok y :=
  (field_eq_ok h).resolve_left nofun

theorem field_optional_eq_ok {y : Option β}
    (h : field fs path spellings (.ok none) (optional check) = .ok y) :
    ∀ z, y = some z → ∃ f ∈ fs, ∃ path, check path f.2 = .ok z := by
  rintro z rfl
  rcases field_eq_ok h with habsent | ⟨f, hf, path, hcheck⟩
  · exact nomatch habsent
  · exact ⟨f, hf, path, optional_eq_ok hcheck z rfl⟩

end

end Check

end ContractRisk
