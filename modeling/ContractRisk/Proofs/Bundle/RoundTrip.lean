import ContractRisk.Proofs.Bundle.Fields
import ContractRisk.Proofs.Finding.Making
import ContractRisk.Proofs.Json.Data
import ContractRisk.Proofs.Scan.Publication

/-!
# Serialised bundles are read back

Every record of a bundle is read back from what is written of it (`restores`), whatever the medium. The
declared fields are found under the keys that they are written with, and a field that is left out is missing.
An interface entry has extra keys beside its declared fields: they are kept if none of them spells a declared
field (`AbiEntry.Apart`).

* `Bundle.ofValue_toValue`   a bundle is read back if its labels are, and if no key of its free data is there
  twice.
-/

namespace ContractRisk
open Check

variable (medium : Medium)

/-! ## records without free data -/

theorem HolderShare.toValue_eq (h : HolderShare Float) : h.toValue = textMap (present
    [("address", some (.text h.address)), ("percentage", some (scalarValue h.percentage))]) := rfl

theorem HolderShare.restores (h : HolderShare Float) : Restores (check medium) toValue h where
  there := nofun
  reads path := by
    unfold check
    rw [toValue_eq, record_textMap]
    obtain ⟨address, percentage⟩ := h
    exact seq_ok (map_ok
      (field_present 0 rfl (restores_text address)))
      (field_present 1 rfl (restores_scalar percentage))

theorem LiquidityMetrics.restores (l : LiquidityMetrics Float) :
    Restores (check medium) toValue l where
  there := nofun
  reads path := by
    obtain ⟨locked, timelock, removable⟩ := l
    unfold check toValue
    rw [record_textMap]
    exact seq_ok (seq_ok (map_ok
      (field_present_optional 0 rfl (fun x _ => restores_scalar x)))
      (field_present_optional 1 rfl (fun b _ => restores_boolean b)))
      (field_present_optional 2 rfl (fun b _ => restores_boolean b))

theorem TokenMetrics.restores (t : TokenMetrics Float) : Restores (check medium) toValue t where
  there := nofun
  reads path := by
    obtain ⟨holders, liquidity⟩ := t
    unfold check toValue
    rw [record_textMap]
    exact seq_ok (map_ok
      (field_present 0 rfl (restores_list medium fun h _ => h.restores medium)))
      (field_present_optional 1 rfl (fun l _ => l.restores medium))

theorem TeamMetrics.restores (t : TeamMetrics Float) : Restores (check medium) toValue t where
  there := nofun
  reads path := by
    obtain ⟨photos, profiles, consistency⟩ := t
    unfold check toValue
    rw [record_textMap]
    exact seq_ok (seq_ok (map_ok
      (field_present_optional 0 rfl (fun i _ => restores_integer i)))
      (field_present_optional 1 rfl (fun x _ => restores_scalar x)))
      (field_present_optional 2 rfl (fun x _ => restores_scalar x))

theorem WebsiteMetrics.restores (w : WebsiteMetrics Float) :
    Restores (check medium) toValue w where
  there := nofun
  reads path := by
    obtain ⟨similarity, content, branding⟩ := w
    unfold check toValue
    rw [record_textMap]
    exact seq_ok (seq_ok (map_ok
      (field_present_optional 0 rfl (fun x _ => restores_scalar x)))
      (field_present_optional 1 rfl (fun x _ => restores_scalar x)))
      (field_present_optional 2 rfl (fun x _ => restores_scalar x))

theorem SocialMetrics.restores (s : SocialMetrics Float) : Restores (check medium) toValue s where
  there := nofun
  reads path := by
    obtain ⟨team, website, bots, coordinated, organic⟩ := s
    unfold check toValue
    rw [record_textMap]
    exact seq_ok (seq_ok (seq_ok (seq_ok (map_ok
      (field_present_optional 0 rfl (fun t _ => t.restores medium)))
      (field_present_optional 1 rfl (fun w _ => w.restores medium)))
      (field_present_optional 2 rfl (fun x _ => restores_scalar x)))
      (field_present_optional 3 rfl (fun x _ => restores_scalar x)))
      (field_present_optional 4 rfl (fun x _ => restores_scalar x))

theorem TransactionRecord.toValue_eq (t : TransactionRecord Float) : t.toValue = textMap (present
    [("hash", some (.text t.hash)), ("fromAddress", some (.text t.fromAddress)),
      ("toAddress", some (.text t.toAddress)), ("value", some (scalarValue t.value)),
      ("method", some (.text t.method)), ("success", some (.bool t.success))]) := rfl

theorem TransactionRecord.restores (t : TransactionRecord Float) :
    Restores (check medium) toValue t where
  there := nofun
  reads path := by
    unfold check
    rw [toValue_eq, record_textMap]
    obtain ⟨hash, sender, receiver, value, method, success⟩ := t
    exact seq_ok (seq_ok (seq_ok (seq_ok (seq_ok (map_ok
      (field_present 0 rfl (restores_text hash)))
      (field_present 1 rfl (restores_text sender)))
      (field_present 2 rfl (restores_text receiver)))
      (field_present 3 rfl (restores_scalar value)))
      (field_present 4 rfl (restores_text method)))
      (field_present 5 rfl (restores_boolean success))

/-! ## interface entries -/

namespace AbiEntry

/-- the declared fields under the keys that they are written with -/
def own (e : AbiEntry) : List (String × Option Value) :=
  [("name", e.name.map .text), ("type", some (.text e.type)),
    ("stateMutability", e.stateMutability.map .text), ("inputs", some (.list (e.inputs.map textMap))),
    ("outputs", some (.list (e.outputs.map textMap)))]

/-- the keys of the declared fields -/
def ownKeys : List String := ["name", "type", "stateMutability", "inputs", "outputs"]

/-- no key is there twice, and no extra key spells a declared field -/
structure Apart (e : AbiEntry) : Prop where
  keys : ∀ k ∈ spellings.flatten, k ∉ e.extras.map Prod.fst
  distinct : (e.extras.map Prod.fst).Nodup
  inputs : ∀ fs ∈ e.inputs, (fs.map Prod.fst).Nodup
  outputs : ∀ fs ∈ e.outputs, (fs.map Prod.fst).Nodup

variable {e : AbiEntry}

theorem spelled?_own (h : e.Apart) {key : String} {x : Option Value} {ss : List String}
    (hmem : (key, x) ∈ e.own) (hss : ss ∈ spellings)
    (hspells : Spells ownKeys key ss := by constructor <;> simp [ownKeys]) :
    spelled? ss (present e.own ++ e.extras) = x.map fun v => (key, v) :=
  (spelled?_append fun k hk => h.keys k (List.mem_flatten_of_mem hss hk)).trans
    (spelled?_present hmem hspells)

/-- the declared fields of the entry are found as they are written -/
structure FoundIn (e : AbiEntry) (fs : Fields) : Prop where
  name : spelled? ["name"] fs = (e.name.map .text).map fun v => ("name", v)
  type : spelled? ["type"] fs = some ("type", .text e.type)
  mutability : spelled? ["stateMutability", "state_mutability"] fs =
    (e.stateMutability.map .text).map fun v => ("stateMutability", v)
  inputs : spelled? ["inputs"] fs = some ("inputs", .list (e.inputs.map textMap))
  outputs : spelled? ["outputs"] fs = some ("outputs", .list (e.outputs.map textMap))

theorem foundIn_written (h : e.Apart) : e.FoundIn (present e.own ++ e.extras) where
  name := spelled?_own h (List.mem_of_getElem? (i := 0) rfl) (List.mem_of_getElem? (i := 0) rfl)
  type := spelled?_own h (List.mem_of_getElem? (i := 1) rfl) (List.mem_of_getElem? (i := 1) rfl)
  mutability := spelled?_own h (List.mem_of_getElem? (i := 2) rfl) (List.mem_of_getElem? (i := 2) rfl)
  inputs := spelled?_own h (List.mem_of_getElem? (i := 3) rfl) (List.mem_of_getElem? (i := 3) rfl)
  outputs := spelled?_own h (List.mem_of_getElem? (i := 4) rfl) (List.mem_of_getElem? (i := 4) rfl)

/-- only spellings of declared fields are taken -/
theorem taken_subset (fs : Fields) : taken medium fs ⊆ spellings.flatten := by
  intro k hk
  cases medium with
  | json => exact hk
  | memory =>
    obtain ⟨ss, hss, hfound⟩ := List.mem_filterMap.mp hk
    obtain ⟨f, hf, rfl⟩ := Option.map_eq_some_iff.mp hfound
    exact List.mem_flatten_of_mem hss (key_mem_of_spelled? hf)

/-- a declared field that is there under its own key is taken -/
theorem mem_taken {fs : Fields} {k : String} (hk : k ∈ ownKeys) (hfs : k ∈ fs.map Prod.fst) :
    k ∈ taken medium fs := by
  have hspelled : ∀ others, (spelled? (k :: others) fs).map Prod.fst = some k := by
    intro others
    rw [spelled?_cons]
    cases hfound : find? k fs with
    | none => exact absurd hfs (find?_eq_none_iff.mp hfound)
    | some v => rfl
  have hhead : ∃ others, k :: others ∈ spellings := by
    simp only [ownKeys, List.mem_cons, List.not_mem_nil, or_false] at hk
    rcases hk with rfl | rfl | rfl | rfl | rfl
    · exact ⟨_, List.mem_of_getElem? (i := 0) rfl⟩
    · exact ⟨_, List.mem_of_getElem? (i := 1) rfl⟩
    · exact ⟨_, List.mem_of_getElem? (i := 2) rfl⟩
    · exact ⟨_, List.mem_of_getElem? (i := 3) rfl⟩
    · exact ⟨_, List.mem_of_getElem? (i := 4) rfl⟩
  obtain ⟨others, hmem⟩ := hhead
  cases medium with
  | json => exact List.mem_flatten_of_mem hmem List.mem_cons_self
  | memory => exact List.mem_filterMap.mpr ⟨_, hmem, hspelled others⟩

theorem checkExtras_textMap {taken path : List String} {fs : Fields} (hkeys : (fs.map Prod.fst).Nodup) :
    checkExtras taken path (fs.map fun f => (.text f.1, f.2)) =
      .ok (fs.filter fun f => !taken.contains f.1) := by
  have hdistinct := hkeys.sublist ((List.filter_sublist (p := fun f => !taken.contains f.1)).map Prod.fst)
  exact (map_ok (keyed_texts _ fs)).trans (congrArg Except.ok (overlay_nil hdistinct))

/-- the extra keys of the entry that is written are those of the entry -/
theorem extras_written (h : e.Apart) :
    (present e.own ++ e.extras).filter
      (fun f => !(taken medium (present e.own ++ e.extras)).contains f.1) = e.extras := by
  have hown : (present e.own).filter
      (fun f => !(taken medium (present e.own ++ e.extras)).contains f.1) = [] :=
    List.filter_eq_nil_iff.mpr fun f hf => by
      have hkey : f.1 ∈ (present e.own).map Prod.fst := List.mem_map_of_mem hf
      have htaken := mem_taken medium ((present_keys e.own).subset hkey)
        (List.map_append ▸ List.mem_append_left (e.extras.map Prod.fst) hkey)
      rw [List.contains_iff_mem.mpr htaken]
      exact Bool.false_ne_true
  have hextras : e.extras.filter
      (fun f => !(taken medium (present e.own ++ e.extras)).contains f.1) = e.extras :=
    List.filter_eq_self.mpr fun f hf => by
      have hnot : f.1 ∉ taken medium (present e.own ++ e.extras) := fun hmem =>
        h.keys f.1 (taken_subset medium _ hmem) (List.mem_map_of_mem hf)
      rw [Bool.eq_false_iff.mpr (mt List.contains_iff_mem.mp hnot)]
      rfl
  rw [List.filter_append, hown, hextras, List.nil_append]

theorem toValue_eq (h : ∀ f ∈ e.extras, isNull f.2 = false) :
    e.toValue = textMap (present e.own ++ e.extras) := by
  have hfilter : e.extras.filter (fun f => !isNull f.2) = e.extras :=
    List.filter_eq_self.mpr fun f hf => by rw [h f hf]; rfl
  unfold toValue
  rw [hfilter]
  rfl

theorem ownKeys_subset : ownKeys ⊆ spellings.flatten := by decide

/-- the written keys are distinct -/
theorem Apart.nodup (h : e.Apart) : ((present e.own ++ e.extras).map Prod.fst).Nodup := by
  rw [List.map_append, List.nodup_append]
  refine ⟨List.Nodup.sublist (present_keys e.own) (by simp [own]), h.distinct, fun k hk k' hk' => ?_⟩
  rintro rfl
  exact h.keys k (ownKeys_subset ((present_keys e.own).subset hk)) hk'

theorem restores (h : e.Apart) (hnull : ∀ f ∈ e.extras, isNull f.2 = false) :
    Restores (check medium) toValue e where
  there := nofun
  reads path := by
    have hfound := foundIn_written h
    have hmaps : ∀ fss : List Fields, (∀ fs ∈ fss, (fs.map Prod.fst).Nodup) →
        Restores (Check.list medium (fields medium)) (fun fss => .list (fss.map textMap)) fss :=
      fun _ hfss => restores_list medium fun fs hfs => restores_fields medium (hfss fs hfs)
    rw [toValue_eq hnull]
    unfold check textMap
    dsimp only [Check.entries]
    rw [fieldsOf_texts, checkExtras_textMap h.nodup, extras_written medium h]
    exact seq_ok (seq_ok (seq_ok (seq_ok (seq_ok (map_ok
      (field_optional_restored hfound.name fun s _ => restores_text s))
      (field_restored hfound.type (restores_text e.type)))
      (field_optional_restored hfound.mutability fun s _ => restores_text s))
      (field_restored (f := fun fss => .list (fss.map textMap)) hfound.inputs (hmaps e.inputs h.inputs)))
      (field_restored (f := fun fss => .list (fss.map textMap)) hfound.outputs
        (hmaps e.outputs h.outputs)))
      rfl

end AbiEntry

/-! ## the whole -/

theorem checkLabel_restores {path : List String} {v : Value} {s : String}
    (h : checkLabel path v = .ok s) : Restores checkLabel .text s := by
  obtain ⟨htrim, hblank⟩ := checkLabel_eq_ok h
  refine ⟨fun path => ?_, nofun⟩
  show (if (Text.trim s).isEmpty then _ else _) = _
  rw [htrim, hblank]
  rfl

/-- **A bundle is read back from its serialised form.** -/
theorem Bundle.ofValue_toValue {b : Bundle Float} (haddress : Restores checkLabel .text b.address)
    (hnetwork : Restores checkLabel .text b.network) (hentries : ∀ e ∈ b.entries, e.Apart)
    (hmetadata : ∀ fs, b.metadata = some fs → (fs.map Prod.fst).Nodup)
    (hnull : ∀ e ∈ b.entries, ∀ f ∈ e.extras, isNull f.2 = false) :
    ofValue medium b.toValue = .ok b := by
  obtain ⟨address, network, bytecode, sourceCode, abi, metadata, transactions, tokenMetrics,
    socialMetrics⟩ := b
  have habi : ∀ es, abi = some es →
      Restores (Check.list medium (AbiEntry.check medium)) (fun es => .list (es.map AbiEntry.toValue))
        es := by
    rintro es rfl
    exact restores_list medium fun e he => AbiEntry.restores medium (hentries e he) (hnull e he)
  unfold ofValue toValue
  rw [record_textMap]
  exact seq_ok (seq_ok (seq_ok (seq_ok (seq_ok (seq_ok (seq_ok (seq_ok (map_ok
    (field_present 0 rfl haddress))
    (field_present 1 rfl hnetwork))
    (field_present_optional 2 rfl (fun s _ => restores_text s)))
    (field_present_optional 3 rfl (fun s _ => restores_text s)))
    (field_present_optional 4 rfl habi))
    (field_present_optional 5 rfl (fun fs hfs => restores_fields medium (hmetadata fs hfs))))
    (field_present_optional 6 rfl
      (fun ts _ => restores_list medium fun t _ => t.restores medium)))
    (field_present_optional 7 rfl (fun t _ => t.restores medium)))
    (field_present_optional 8 rfl (fun s _ => s.restores medium))

end ContractRisk
