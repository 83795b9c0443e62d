import ContractRisk.Bundle.View
import ContractRisk.Json.Reader
import ContractRisk.Proofs.Value.Document
import Mathlib.Data.List.Nodup

/-!
# Data of JSON texts

`Value.IsJson p n v` says that `v` is data as JSON has it: lists and maps, texts for keys and no key twice,
with at most `n` containers that hold something around another one, and with numbers that satisfy `p`.

* `Json.read_isJson`      whatever is read from a JSON text is such data;
* `IsJson.document_eq`    such data are their own document;
* `IsJson.of_floats`      `p` is a matter of the numbers alone.
-/

namespace ContractRisk

namespace Value

/-- data as a JSON text has it -/
inductive IsJson (p : Float → Prop) : Nat → Value → Prop
  | null {n : Nat} : IsJson p n .null
  | bool {n : Nat} {b : Bool} : IsJson p n (.bool b)
  | int {n : Nat} {i : Int} : IsJson p n (.int i)
  | float {n : Nat} {x : Float} (hx : p x) : IsJson p n (.float x)
  | text {n : Nat} {s : String} : IsJson p n (.text s)
  | list {n m : Nat} {xs : List Value} (hroom : xs ≠ [] → m < n) (hall : ∀ x ∈ xs, IsJson p m x) :
    IsJson p n (.list xs)
  | map {n m : Nat} {fs : List (String × Value)} (hroom : fs ≠ [] → m < n)
    (hkeys : (fs.map Prod.fst).Nodup) (hall : ∀ f ∈ fs, IsJson p m f.2) : IsJson p n (textMap fs)

/-! ## numbers in data -/

mutual

/-- the numbers with a fraction, at any depth -/
def floats : Value → List Float
  | float x => [x]
  | list xs | tuple xs | set xs => floatsOfAll xs
  | map es => floatsOfEntries es
  | _ => []

def floatsOfAll : List Value → List Float
  | [] => []
  | x :: xs => floats x ++ floatsOfAll xs

def floatsOfEntries : List (Value × Value) → List Float
  | [] => []
  | (k, v) :: es => floats k ++ floats v ++ floatsOfEntries es

end

theorem floats_subset_list {v : Value} {xs : List Value} (h : v ∈ xs) :
    v.floats ⊆ (list xs).floats := by
  rw [floats]
  induction xs with
  | nil => exact nomatch h
  | cons x xs ih =>
    rw [floatsOfAll]
    rcases List.mem_cons.mp h with rfl | h
    · exact List.subset_append_left ..
    · exact List.Subset.trans (ih h) (List.subset_append_right ..)

theorem floats_subset_textMap {f : String × Value} {fs : List (String × Value)} (h : f ∈ fs) :
    f.2.floats ⊆ (textMap fs).floats := by
  rw [textMap, floats]
  induction fs with
  | nil => exact absurd h List.not_mem_nil
  | cons g fs ih =>
    rw [List.map_cons, floatsOfEntries]
    rcases List.mem_cons.mp h with rfl | h
    · exact List.Subset.trans (List.subset_append_right ..) (List.subset_append_left ..)
    · exact List.Subset.trans (ih h) (List.subset_append_right ..)

namespace IsJson

variable {p q : Float → Prop} {n m : Nat} {v : Value}

theorem mono (h : IsJson p n v) (hle : n ≤ m) : IsJson p m v := by
  cases h with
  | null => exact .null
  | bool => exact .bool
  | int => exact .int
  | float hx => exact .float hx
  | text => exact .text
  | list hroom hall => exact .list (fun hne => Nat.lt_of_lt_of_le (hroom hne) hle) hall
  | map hroom hkeys hall => exact .map (fun hne => Nat.lt_of_lt_of_le (hroom hne) hle) hkeys hall

/-- only the numbers matter -/
theorem of_floats (h : IsJson p n v) (hall : ∀ x ∈ v.floats, q x) : IsJson q n v := by
  induction h with
  | null => exact .null
  | bool => exact .bool
  | int => exact .int
  | float hx => exact .float (hall _ (by simp [floats]))
  | text => exact .text
  | list hroom _ ih =>
    exact .list hroom fun v hv => ih v hv fun x hx => hall x (floats_subset_list hv hx)
  | map hroom hkeys _ ih =>
    exact .map hroom hkeys fun f hf => ih f hf fun x hx => hall x (floats_subset_textMap hf hx)

/-- such data are their own document if there are levels enough -/
theorem document_eq (h : IsJson p n v) {levels : Nat} (hlevels : n < levels) :
    v.document levels = .ok v := by
  induction h generalizing levels with
  | @list n m xs hroom _ ih =>
    obtain ⟨l, rfl⟩ := Nat.exists_eq_add_of_lt hlevels
    have hitems : xs.mapM (document (n + l)) = .ok xs := mapM_eq_self fun x hx =>
      ih x hx (Nat.lt_of_lt_of_le (hroom (List.ne_nil_of_mem hx)) (Nat.le_add_right n l))
    rw [document_list, hitems]
    rfl
  | @map n m fs hroom _ _ ih =>
    obtain ⟨l, rfl⟩ := Nat.exists_eq_add_of_lt hlevels
    have hentries : fs.mapM (fun f => (document (n + l) f.2).map fun w => (Value.text f.1, w)) =
        .ok (fs.map fun f => (.text f.1, f.2)) := by
      refine mapM_eq_ok_iff.mpr (List.forall₂_map_right_iff.mpr (List.forall₂_same.mpr fun f hf => ?_))
      rw [ih f hf (Nat.lt_of_lt_of_le (hroom (List.ne_nil_of_mem hf)) (Nat.le_add_right n l))]
      rfl
    rw [document_textMap, hentries]
    rfl
  | _ => exact if_neg (Nat.ne_of_gt (Nat.lt_of_le_of_lt (Nat.zero_le _) hlevels))

end IsJson

/-! ## maps that grow -/

/-- puts an entry over the one with the same key, else at the end -/
def putText (k : String) (v : Value) : List (String × Value) → List (String × Value)
  | [] => [(k, v)]
  | f :: fs => if k = f.1 then (f.1, v) :: fs else f :: putText k v fs

theorem putEntry_text (k : String) (v : Value) (fs : List (String × Value)) :
    putEntry (.text k) v (fs.map fun f => (.text f.1, f.2)) =
      (putText k v fs).map fun f => (.text f.1, f.2) := by
  induction fs with
  | nil => rfl
  | cons f fs ih =>
    rw [List.map_cons, putEntry, ih, putText]
    have hsame : same (text k) (text f.1) = (k == f.1) := by rw [same]
    rw [hsame]
    by_cases hk : k = f.1
    · rw [if_pos (beq_iff_eq.mpr hk), if_pos hk]
      rfl
    · rw [if_neg (mt beq_iff_eq.mp hk), if_neg hk]
      rfl

theorem putText_keys (k : String) (v : Value) (fs : List (String × Value)) :
    (putText k v fs).map Prod.fst =
      if k ∈ fs.map Prod.fst then fs.map Prod.fst else fs.map Prod.fst ++ [k] := by
  induction fs with
  | nil => rfl
  | cons f fs ih =>
    rw [putText]
    by_cases hk : k = f.1
    · rw [if_pos hk, if_pos (by simp [hk])]
      rfl
    · rw [if_neg hk, List.map_cons, ih, List.map_cons]
      by_cases hmem : k ∈ fs.map Prod.fst
      · rw [if_pos hmem, if_pos (List.mem_cons_of_mem _ hmem)]
      · rw [if_neg hmem, if_neg (fun h => (List.mem_cons.mp h).elim hk hmem), List.cons_append]

theorem putText_nodup {fs : List (String × Value)} (h : (fs.map Prod.fst).Nodup) (k : String)
    (v : Value) : ((putText k v fs).map Prod.fst).Nodup := by
  rw [putText_keys]
  split
  · exact h
  · next hk =>
    refine List.nodup_append.mpr ⟨h, List.nodup_singleton k, fun a ha b hb => ?_⟩
    rw [List.mem_singleton.mp hb]
    rintro rfl
    exact hk ha

theorem mem_putText {f : String × Value} {k : String} {v : Value} {fs : List (String × Value)}
    (h : f ∈ putText k v fs) : f.2 = v ∨ f ∈ fs := by
  induction fs with
  | nil =>
    obtain rfl := List.mem_singleton.mp h
    exact .inl rfl
  | cons g fs ih =>
    unfold putText at h
    split at h
    · rcases List.mem_cons.mp h with rfl | h
      · exact .inl rfl
      · exact .inr (List.mem_cons_of_mem _ h)
    · rcases List.mem_cons.mp h with rfl | h
      · exact .inr List.mem_cons_self
      · exact (ih h).imp_right (List.mem_cons_of_mem _)

end Value

/-! ## what is read -/

namespace Json
open Value

/-- the numbers of a JSON text may be any, NaN and the infinities among them -/
abbrev AnyFloat : Float → Prop := fun _ => True

/-- data that hold nothing fit anywhere -/
def Flat (v : Value) : Prop := ∀ n, IsJson AnyFloat n v

theorem flat_list : Flat (.list []) := fun n =>
  .list (m := n) (fun h => absurd rfl h) (fun _ h => nomatch h)

theorem flat_map : Flat (.map []) := fun n => by
  have hnone : ∀ f ∈ ([] : List (String × Value)), IsJson AnyFloat n f.2 := fun _ h => nomatch h
  exact .map (fun h => absurd rfl h) .nil hnone

theorem afterWhole_flat {negative : Bool} {whole : Nat} {bs r : List UInt8} {v : Value}
    (h : afterWhole negative whole bs = .ok (v, r)) : Flat v := by
  have hfloat : ∀ x, Flat (.float x) := fun x n => .float trivial
  have hint : ∀ i, Flat (.int i) := fun i n => .int
  unfold afterWhole at h
  split at h
  · obtain ⟨⟨n, places, r⟩, -, h⟩ := bind_eq_ok_iff.mp h
    dsimp only at h
    split at h
    · split at h
      · obtain ⟨⟨e, r⟩, -, h⟩ := bind_eq_ok_iff.mp h
        cases h
        exact hfloat _
      · cases h
        exact hfloat _
    · cases h
      exact hfloat _
  · split at h
    · obtain ⟨⟨e, r⟩, -, h⟩ := bind_eq_ok_iff.mp h
      cases h
      exact hfloat _
    · cases h
      exact hint _
  · cases h
    exact hint _

theorem number_flat {negative : Bool} {start bs r : List UInt8} {v : Value}
    (h : number negative start bs = .ok (v, r)) : Flat v := by
  unfold number at h
  split at h
  · exact nomatch h
  · split at h
    · split at h
      · exact nomatch h
      · exact afterWhole_flat h
    · exact afterWhole_flat h
  · obtain ⟨_, -, h⟩ := map_eq_ok_iff.mp h
    cases h
    exact fun n => .float trivial
  · split at h
    · dsimp only at h
      split at h
      · exact nomatch h
      · exact afterWhole_flat h
    · exact nomatch h

/-- what is next holds nothing, or is a list or an object that there is room for -/
theorem value_cases {nesting depth fuel : Nat} {bs r : List UInt8} {v : Value}
    (h : value nesting depth (fuel + 1) bs = .ok (v, r)) :
    Flat v ∨ depth < nesting ∧
      ((∃ bs', elements nesting (depth + 1) [] fuel bs' = .ok (v, r)) ∨
        ∃ k bs', members nesting (depth + 1) [] k fuel bs' = .ok (v, r)) := by
  have hroom : ∀ {bs u}, checkDepth nesting depth bs = .ok u → depth < nesting := by
    intro bs u hcheck
    unfold checkDepth at hcheck
    split at hcheck
    · exact nomatch hcheck
    · next hlt => exact Nat.lt_of_not_le hlt
  cases bs with
  | nil => exact nomatch h
  | cons b bs =>
    unfold value at h
    split at h
    · obtain ⟨_, -, h⟩ := map_eq_ok_iff.mp h
      cases h
      exact .inl fun n => .null
    split at h
    · obtain ⟨_, -, h⟩ := map_eq_ok_iff.mp h
      cases h
      exact .inl fun n => .bool
    split at h
    · obtain ⟨_, -, h⟩ := map_eq_ok_iff.mp h
      cases h
      exact .inl fun n => .bool
    split at h
    · obtain ⟨_, -, h⟩ := map_eq_ok_iff.mp h
      cases h
      exact .inl fun n => .text
    split at h
    -- a list
    · split at h
      · exact nomatch h
      · cases h
        exact .inl flat_list
      · obtain ⟨_, hcheck, h⟩ := bind_eq_ok_iff.mp h
        exact .inr ⟨hroom hcheck, .inl ⟨_, h⟩⟩
    split at h
    -- an object
    · split at h
      · exact nomatch h
      · cases h
        exact .inl flat_map
      · obtain ⟨⟨k, r'⟩, -, h⟩ := bind_eq_ok_iff.mp h
        obtain ⟨_, hcheck, h⟩ := bind_eq_ok_iff.mp h
        exact .inr ⟨hroom hcheck, .inr ⟨k, _, h⟩⟩
      · exact nomatch h
    split at h
    · obtain ⟨_, -, h⟩ := map_eq_ok_iff.mp h
      cases h
      exact .inl fun n => .float trivial
    split at h
    · exact .inl (number_flat h)
    split at h
    · exact .inl (number_flat h)
    · exact nomatch h

/-- an element, and then the end of the list or more elements -/
theorem elements_cases {nesting depth fuel : Nat} {acc : List Value} {bs r : List UInt8} {v : Value}
    (h : elements nesting depth acc (fuel + 1) bs = .ok (v, r)) :
    ∃ x bs', value nesting depth fuel bs = .ok (x, bs') ∧
      (v = .list (x :: acc).reverse ∨
        ∃ bs'', elements nesting depth (x :: acc) fuel bs'' = .ok (v, r)) := by
  unfold elements at h
  obtain ⟨⟨x, bs'⟩, hx, h⟩ := bind_eq_ok_iff.mp h
  refine ⟨x, bs', hx, ?_⟩
  dsimp only at h
  split at h
  · exact nomatch h
  · cases h
    exact .inl rfl
  · split at h
    · exact nomatch h
    · exact nomatch h
    · exact .inr ⟨_, h⟩
  · exact nomatch h

/-- the value of the key, and then the end of the object or more entries -/
theorem members_cases {nesting depth fuel : Nat} {acc : List (Value × Value)} {k : String}
    {bs r : List UInt8} {v : Value} (h : members nesting depth acc k (fuel + 1) bs = .ok (v, r)) :
    ∃ x bs', value nesting depth fuel bs = .ok (x, bs') ∧
      (v = .map (putEntry (.text k) x acc) ∨
        ∃ k' bs'', members nesting depth (putEntry (.text k) x acc) k' fuel bs'' = .ok (v, r)) := by
  unfold members at h
  obtain ⟨⟨x, bs'⟩, hx, h⟩ := bind_eq_ok_iff.mp h
  refine ⟨x, bs', hx, ?_⟩
  dsimp only at h
  split at h
  · exact nomatch h
  · cases h
    exact .inl rfl
  · split at h
    · exact nomatch h
    · exact nomatch h
    · obtain ⟨⟨k', r'⟩, -, h⟩ := bind_eq_ok_iff.mp h
      exact .inr ⟨k', _, h⟩
    · exact nomatch h
  · exact nomatch h

/-- the entries of an object so far -/
structure Entries (n : Nat) (es : List (Value × Value)) (fs : List (String × Value)) : Prop where
  texts : es = fs.map fun f => (.text f.1, f.2)
  keys : (fs.map Prod.fst).Nodup
  values : ∀ f ∈ fs, IsJson AnyFloat n f.2

theorem Entries.put {n : Nat} {es : List (Value × Value)} {fs : List (String × Value)}
    (h : Entries n es fs) (k : String) {v : Value} (hv : IsJson AnyFloat n v) :
    Entries n (putEntry (.text k) v es) (putText k v fs) where
  texts := by rw [h.texts, putEntry_text]
  keys := putText_nodup h.keys k v
  values f hf := (mem_putText hf).elim (fun heq => heq ▸ hv) (h.values f)

/-- by induction on the fuel, which the three readers hand down to each other -/
theorem isJson_of_fuel (nesting fuel : Nat) :
    (∀ depth bs v r, value nesting depth fuel bs = .ok (v, r) →
      IsJson AnyFloat (nesting - depth) v) ∧
    (∀ depth acc bs v r, depth < nesting → (∀ x ∈ acc, IsJson AnyFloat (nesting - (depth + 1)) x) →
      elements nesting (depth + 1) acc fuel bs = .ok (v, r) → IsJson AnyFloat (nesting - depth) v) ∧
    (∀ depth acc fs k bs v r, depth < nesting → Entries (nesting - (depth + 1)) acc fs →
      members nesting (depth + 1) acc k fuel bs = .ok (v, r) →
      IsJson AnyFloat (nesting - depth) v) := by
  induction fuel with
  | zero =>
    refine ⟨fun _ _ _ _ h => ?_, fun _ _ _ _ _ _ _ h => ?_, fun _ _ _ _ _ _ _ _ _ h => ?_⟩
    · unfold value at h
      exact nomatch h
    · unfold elements at h
      exact nomatch h
    · unfold members at h
      exact nomatch h
  | succ fuel ih =>
    obtain ⟨hvalue, helements, hmembers⟩ := ih
    refine ⟨fun depth bs v r h => ?_, fun depth acc bs v r hdepth hacc h => ?_,
      fun depth acc fs k bs v r hdepth hacc h => ?_⟩
    · rcases value_cases h with hflat | ⟨hdepth, ⟨bs', h⟩ | ⟨k, bs', h⟩⟩
      · exact hflat _
      · exact helements depth [] bs' v r hdepth (fun _ hx => nomatch hx) h
      · exact hmembers depth [] [] k bs' v r hdepth ⟨rfl, .nil, fun _ hf => nomatch hf⟩ h
    · obtain ⟨x, bs', hx, hcase⟩ := elements_cases h
      have hall : ∀ y ∈ x :: acc, IsJson AnyFloat (nesting - (depth + 1)) y :=
        List.forall_mem_cons.mpr ⟨hvalue _ _ _ _ hx, hacc⟩
      rcases hcase with rfl | ⟨bs'', h⟩
      · exact .list (fun _ => by omega) fun y hy => hall y (List.mem_reverse.mp hy)
      · exact helements depth _ _ _ _ hdepth hall h
    · obtain ⟨x, bs', hx, hcase⟩ := members_cases h
      have hput := hacc.put k (hvalue _ _ _ _ hx)
      rcases hcase with rfl | ⟨k', bs'', h⟩
      · rw [hput.texts]
        exact .map (fun _ => by omega) hput.keys hput.values
      · exact hmembers depth _ _ _ _ _ _ hdepth hput h

/-- **What is read from a JSON text is data as JSON has it.** -/
theorem read_isJson {nesting : Nat} {bs : List UInt8} {v : Value} (h : read nesting bs = .ok v) :
    IsJson AnyFloat nesting v := by
  obtain ⟨⟨w, r⟩, hvalue, hrest⟩ := bind_eq_ok_iff.mp (mapError_eq_ok.mp h)
  have hw := (isJson_of_fuel nesting _).1 _ _ _ _ hvalue
  dsimp only at hrest
  split at hrest
  · cases hrest
    exact hw
  · exact nomatch hrest

end Json

end ContractRisk
