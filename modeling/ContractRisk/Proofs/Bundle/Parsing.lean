import ContractRisk.Proofs.Bundle.RoundTrip

/-!
# Bundles from JSON texts

What is read from a JSON text is data of a bounded depth, and a bundle keeps the free parts of it as they are
(`Bundle.Sound`). So a bundle that was parsed has a serialised form, which is data of a JSON text again, and
which is read back:

* `Bundle.view_of_parse`   every such bundle has a serialised text;
* `Bundle.parse_toValue`   and if its numbers are finite and its extra keys are not null, it is read back.
-/

namespace ContractRisk
open Check Value
open Json (AnyFloat)
open Text.Utf8 (bytes_append bytes_ofList)

/-! ## data that passed a check -/

section
variable {p : Float → Prop} {n : Nat} {v : Value} {medium : Medium} {path : List String}

theorem isJson_entries {fs : Fields} (h : IsJson p (n + 1) (textMap fs)) :
    (fs.map Prod.fst).Nodup ∧ ∀ f ∈ fs, IsJson p n f.2 := by
  generalize hv : textMap fs = v at h
  cases h with
  | @map _ m gs hroom hkeys hall =>
    have hgs : gs = fs := by rw [← fieldsOf_texts gs, ← fieldsOf_texts fs, Value.map.inj hv]
    subst hgs
    refine ⟨hkeys, fun f hf => (hall f hf).mono ?_⟩
    exact Nat.le_of_lt_succ (hroom (List.ne_nil_of_mem hf))
  | _ => exact nomatch hv

theorem isJson_items {xs : List Value} (h : IsJson p (n + 1) (.list xs)) :
    ∀ x ∈ xs, IsJson p n x := by
  cases h with
  | list hroom hall =>
    exact fun x hx => (hall x hx).mono (Nat.le_of_lt_succ (hroom (List.ne_nil_of_mem hx)))

theorem entries_eq_ok {model : String} {es : List (Value × Value)} (hv : IsJson p n v)
    (h : Check.entries medium model path v = .ok es) :
    ∃ fs : Fields, v = textMap fs ∧ es = fs.map fun f => (.text f.1, f.2) := by
  cases hv with
  | map _ _ _ => exact ⟨_, rfl, (Except.ok.inj h).symm⟩
  | _ => exact nomatch h

theorem record_eq_ok {model : String} {fs : Fields} (hv : IsJson p n v)
    (h : Check.record medium model path v = .ok fs) : v = textMap fs := by
  cases hv with
  | map _ _ _ =>
    rw [record_textMap] at h
    rw [Except.ok.inj h]
  | _ => exact nomatch h

theorem fields_eq_ok {fs : Fields} (hv : IsJson p n v) (h : fields medium path v = .ok fs) :
    v = textMap fs := by
  cases hv with
  | map _ hkeys _ => rw [Except.ok.inj (((restores_fields medium hkeys).reads path).symm.trans h)]
  | _ => exact nomatch h

theorem list_eq_ok {β : Type} {check : List String → Value → Check β} {ys : List β}
    (hv : IsJson p n v) (h : list medium check path v = .ok ys) :
    ∃ xs, v = .list xs ∧ List.Forall₂ (fun x y => ∃ path, check path x = .ok y) xs ys := by
  cases hv with
  | @list _ _ xs _ _ => exact ⟨xs, rfl, each_eq_ok h⟩
  | _ => exact nomatch h

/-- maps in a list are kept as they are -/
theorem isJson_maps {fs : Fields} {spellings : List String} {fss : List Fields}
    (hfs : ∀ f ∈ fs, IsJson p (n + 1) f.2)
    (h : field fs path spellings (.ok []) (Check.list medium (fields medium)) = .ok fss) :
    IsJson p (n + 1) (.list (fss.map textMap)) := by
  rcases field_eq_ok h with habsent | ⟨f, hf, path, hlist⟩
  · obtain rfl := Except.ok.inj habsent
    exact .list (m := 0) (fun hne => absurd rfl hne) nofun
  · obtain ⟨xs, hxs, hall⟩ := list_eq_ok (hfs f hf) hlist
    have hdata : IsJson p (n + 1) (.list xs) := hxs ▸ hfs f hf
    have hmaps : List.Forall₂ (fun x fs => x = textMap fs) xs fss :=
      (List.forall₂_and_left _ _).mpr ⟨isJson_items hdata, hall⟩ |>.imp
        fun x fs ⟨hx, path, hfields⟩ => fields_eq_ok hx hfields
    rw [← List.forall₂_map_right_iff, List.forall₂_eq_eq_eq] at hmaps
    exact hmaps ▸ hdata

end

/-! ## what was parsed -/

/-- the free parts of an interface entry are data of a JSON text -/
structure AbiEntry.Sound (n : Nat) (e : AbiEntry) : Prop where
  apart : ∀ k ∈ spellings.flatten, k ∉ e.extras.map Prod.fst
  distinct : (e.extras.map Prod.fst).Nodup
  inputs : IsJson AnyFloat n (.list (e.inputs.map textMap))
  outputs : IsJson AnyFloat n (.list (e.outputs.map textMap))
  extras : ∀ f ∈ e.extras, IsJson AnyFloat n f.2

theorem AbiEntry.sound_of_check {path : List String} {n : Nat} {v : Value} {e : AbiEntry}
    (hv : IsJson AnyFloat (n + 2) v) (h : check .json path v = .ok e) : e.Sound (n + 1) := by
  unfold check at h
  cases hes : Check.entries .json "AbiEntry" path v with
  | error p =>
    rw [hes] at h
    exact nomatch h
  | ok es =>
    rw [hes] at h
    dsimp only at h
    obtain ⟨fs, rfl, rfl⟩ := entries_eq_ok hv hes
    rw [fieldsOf_texts] at h
    obtain ⟨hkeys, hvalues⟩ := isJson_entries hv
    obtain ⟨_, hdeclared, _, hextras, rfl⟩ := seq_eq_ok.mp h
    simp only [seq_eq_ok, map_eq_ok] at hdeclared
    obtain ⟨_, ⟨_, ⟨_, ⟨_, ⟨_, _, rfl⟩, _, _, rfl⟩, _, _, rfl⟩, inputs, hinputs, rfl⟩, outputs,
      houtputs, rfl⟩ := hdeclared
    obtain rfl := Except.ok.inj ((checkExtras_textMap hkeys).symm.trans hextras)
    refine ⟨fun k hk hmem => ?_, ?_, isJson_maps hvalues hinputs, isJson_maps hvalues houtputs,
      fun f hf => hvalues f (List.mem_of_mem_filter hf)⟩
    · obtain ⟨f, hf, rfl⟩ := List.mem_map.mp hmem
      have hfree := (List.mem_filter.mp hf).2
      rw [show (taken .json fs).contains f.1 = true from List.contains_iff_mem.mpr hk] at hfree
      exact nomatch hfree
    · exact hkeys.sublist (List.filter_sublist.map _)

/-- the keys of maps in data of a JSON text are distinct -/
theorem nodup_of_isJson_maps {n : Nat} {fss : List Fields}
    (h : IsJson AnyFloat (n + 1) (.list (fss.map textMap))) : ∀ fs ∈ fss, (fs.map Prod.fst).Nodup :=
  fun _ hfs => (isJson_entries ((isJson_items h _ (List.mem_map_of_mem hfs)).mono (Nat.le_succ n))).1

theorem AbiEntry.Sound.toApart {n : Nat} {e : AbiEntry} (h : e.Sound (n + 1)) : e.Apart where
  keys := h.apart
  distinct := h.distinct
  inputs := nodup_of_isJson_maps h.inputs
  outputs := nodup_of_isJson_maps h.outputs

/-- the labels of a bundle are read back, and its free parts are data of a JSON text -/
structure Bundle.Sound (n : Nat) (b : Bundle Float) : Prop where
  address : Restores checkLabel .text b.address
  network : Restores checkLabel .text b.network
  entries : ∀ e ∈ b.entries, e.Sound n
  metadata : ∀ fs, b.metadata = some fs → IsJson AnyFloat (n + 2) (textMap fs)

theorem Bundle.sound_of_ofValue {n : Nat} {v : Value} {b : Bundle Float}
    (hv : IsJson AnyFloat (n + 4) v) (h : ofValue .json v = .ok b) : b.Sound (n + 1) := by
  unfold ofValue at h
  cases hfs : Check.record .json "ContractAnalysisBundle" [] v with
  | error p =>
    rw [hfs] at h
    exact nomatch h
  | ok fs =>
    rw [hfs] at h
    obtain ⟨-, hvalues⟩ := isJson_entries (record_eq_ok hv hfs ▸ hv)
    unfold ofFields at h
    simp only [seq_eq_ok, map_eq_ok] at h
    obtain ⟨_, ⟨_, ⟨_, ⟨_, ⟨_, ⟨_, ⟨_, ⟨_, ⟨address, haddress, rfl⟩, network, hnetwork, rfl⟩, _, _, rfl⟩,
      _, _, rfl⟩, abi, habi, rfl⟩, metadata, hmetadata, rfl⟩, _, _, rfl⟩, _, _, rfl⟩, _, _, rfl⟩ := h
    obtain ⟨_, -, _, haddress⟩ := required_eq_ok haddress
    obtain ⟨_, -, _, hnetwork⟩ := required_eq_ok hnetwork
    refine ⟨checkLabel_restores haddress, checkLabel_restores hnetwork, fun e he => ?_, ?_⟩
    · cases abi with
      | none => exact nomatch he
      | some es =>
        obtain ⟨f, hf, path, hlist⟩ := field_optional_eq_ok habi es rfl
        obtain ⟨xs, hxs, hall⟩ := list_eq_ok (hvalues f hf) hlist
        have hitems := isJson_items (hxs ▸ hvalues f hf)
        obtain ⟨x, hx, path, hcheck⟩ := forall₂_exists_left hall he
        exact AbiEntry.sound_of_check (hitems x hx) hcheck
    · rintro fs rfl
      obtain ⟨f, hf, path, hfields⟩ := field_optional_eq_ok hmetadata fs rfl
      exact fields_eq_ok (hvalues f hf) hfields ▸ hvalues f hf

/-! ## what is written -/

/-- a part that is there is data of a JSON text -/
def Part (n : Nat) (x : Option Value) : Prop := ∀ v, x = some v → IsJson AnyFloat n v

section
variable {n : Nat}

theorem part_some {v : Value} (h : IsJson AnyFloat n v) : Part n (some v) := by
  rintro w ⟨⟩
  exact h

theorem part_map {β : Type} {f : β → Value} {x : Option β}
    (h : ∀ y, x = some y → IsJson AnyFloat n (f y)) : Part n (x.map f) := by
  intro v hv
  obtain ⟨y, hy, rfl⟩ := Option.map_eq_some_iff.mp hv
  exact h y hy

theorem isJson_list {β : Type} {f : β → Value} {ys : List β}
    (h : ∀ y ∈ ys, IsJson AnyFloat n (f y)) : IsJson AnyFloat (n + 1) (.list (ys.map f)) := by
  refine .list (fun _ => Nat.lt_succ_self n) fun v hv => ?_
  obtain ⟨y, hy, rfl⟩ := List.mem_map.mp hv
  exact h y hy

theorem isJson_present {own : List (String × Option Value)} (hkeys : (own.map Prod.fst).Nodup)
    (h : own.Forall fun f => Part n f.2) : IsJson AnyFloat (n + 1) (textMap (present own)) :=
  .map (fun _ => Nat.lt_succ_self n) (hkeys.sublist (present_keys own))
    fun _ hf => List.forall_iff_forall_mem.mp h _ (mem_present hf) _ rfl

theorem HolderShare.isJson (h : HolderShare Float) : IsJson AnyFloat (n + 1) h.toValue :=
  h.toValue_eq ▸ isJson_present (by simp) ⟨part_some .text, part_some (.float trivial)⟩

theorem LiquidityMetrics.isJson (l : LiquidityMetrics Float) : IsJson AnyFloat (n + 1) l.toValue :=
  isJson_present (by simp) ⟨part_map fun _ _ => .float trivial, part_map fun _ _ => .bool,
    part_map fun _ _ => .bool⟩

theorem TokenMetrics.isJson (t : TokenMetrics Float) : IsJson AnyFloat (n + 3) t.toValue :=
  isJson_present (by simp) ⟨part_some (isJson_list fun h _ => h.isJson),
    part_map fun l _ => l.isJson⟩

theorem TeamMetrics.isJson (t : TeamMetrics Float) : IsJson AnyFloat (n + 1) t.toValue :=
  isJson_present (by simp) ⟨part_map fun _ _ => .int, part_map fun _ _ => .float trivial,
    part_map fun _ _ => .float trivial⟩

theorem WebsiteMetrics.isJson (w : WebsiteMetrics Float) : IsJson AnyFloat (n + 1) w.toValue :=
  isJson_present (by simp) ⟨part_map fun _ _ => .float trivial, part_map fun _ _ => .float trivial,
    part_map fun _ _ => .float trivial⟩

theorem SocialMetrics.isJson (s : SocialMetrics Float) : IsJson AnyFloat (n + 2) s.toValue :=
  isJson_present (by simp) ⟨part_map fun t _ => t.isJson, part_map fun w _ => w.isJson,
    part_map fun _ _ => .float trivial, part_map fun _ _ => .float trivial,
    part_map fun _ _ => .float trivial⟩

theorem TransactionRecord.isJson (t : TransactionRecord Float) :
    IsJson AnyFloat (n + 1) t.toValue :=
  t.toValue_eq ▸ isJson_present (by simp) ⟨part_some .text, part_some .text, part_some .text,
    part_some (.float trivial), part_some .text, part_some .bool⟩

theorem AbiEntry.isJson {e : AbiEntry} (h : e.Sound n) (hnull : ∀ f ∈ e.extras, isNull f.2 = false) :
    IsJson AnyFloat (n + 1) e.toValue := by
  have hown : IsJson AnyFloat (n + 1) (textMap (present e.own)) :=
    isJson_present (by simp [own]) ⟨part_map fun _ _ => .text, part_some .text,
      part_map fun _ _ => .text, part_some h.inputs, part_some h.outputs⟩
  obtain ⟨hkeys, hvalues⟩ := isJson_entries hown
  rw [toValue_eq hnull]
  refine .map (fun _ => Nat.lt_succ_self n) ?_ fun f hf => ?_
  · rw [List.map_append, List.nodup_append]
    refine ⟨hkeys, h.distinct, fun k hk k' hk' => ?_⟩
    rintro rfl
    exact h.apart k (ownKeys_subset ((present_keys e.own).subset hk)) hk'
  · exact (List.mem_append.mp hf).elim (hvalues f) (h.extras f)

/-- the serialised form of a bundle is data of a JSON text -/
theorem Bundle.isJson {b : Bundle Float} (h : b.Sound (n + 1))
    (hnull : ∀ e ∈ b.entries, ∀ f ∈ e.extras, isNull f.2 = false) :
    IsJson AnyFloat (n + 4) b.toValue := by
  refine isJson_present (by simp) ⟨part_some .text, part_some .text, part_map fun _ _ => .text,
    part_map fun _ _ => .text, part_map fun es hes => ?_, part_map fun fs hfs => h.metadata fs hfs,
    part_map fun ts _ => isJson_list fun t _ => t.isJson, part_map fun t _ => t.isJson,
    part_map fun s _ => s.isJson⟩
  have hentries : b.entries = es := congrArg (·.getD []) hes
  exact isJson_list fun e he =>
    AbiEntry.isJson (h.entries e (hentries ▸ he)) (hnull e (hentries ▸ he))

end

/-! ## the serialised text -/

theorem documentFields_eq {n : Nat} {fs : Fields} (h : ∀ f ∈ fs, IsJson AnyFloat n f.2)
    (hn : n < documentLevels) : documentFields fs = .ok fs :=
  mapM_eq_self fun f hf => by
    rw [(h f hf).document_eq hn]
    rfl

theorem AbiEntry.Sound.document_eq {n : Nat} {e : AbiEntry} (h : e.Sound (n + 1))
    (hn : n + 1 < documentLevels) : e.document = .ok e := by
  have hmaps : ∀ fss : List Fields, IsJson AnyFloat (n + 1) (.list (fss.map textMap)) →
      fss.mapM documentFields = .ok fss := fun fss hfss => mapM_eq_self fun fs hfs => by
    have hfields := isJson_items hfss _ (List.mem_map_of_mem hfs)
    exact documentFields_eq (isJson_entries (hfields.mono (Nat.le_succ n))).2 (Nat.lt_of_succ_lt hn)
  unfold document
  rw [hmaps _ h.inputs, hmaps _ h.outputs, documentFields_eq h.extras hn]
  rfl

theorem Bundle.Sound.document_eq {n : Nat} {b : Bundle Float} (h : b.Sound (n + 1))
    (hn : n + 2 < documentLevels) : b.document = .ok b := by
  have habi : b.abi.mapM (fun es => es.mapM AbiEntry.document) = .ok b.abi := by
    cases hes : b.abi with
    | none => rfl
    | some es =>
      have hentries : b.entries = es := congrArg (·.getD []) hes
      have hall : es.mapM AbiEntry.document = .ok es := mapM_eq_self fun e he =>
        (h.entries e (hentries ▸ he)).document_eq (Nat.lt_of_succ_lt hn)
      exact congrArg (Except.map some) hall
  have hmetadata : b.metadata.mapM documentFields = .ok b.metadata := by
    cases hfs : b.metadata with
    | none => rfl
    | some fs =>
      have hall : documentFields fs = .ok fs := documentFields_eq (isJson_entries (h.metadata fs hfs)).2 hn
      exact congrArg (Except.map some) hall
  unfold document
  rw [habi, hmetadata]
  rfl

namespace Bundle

/-- a bundle that was parsed from a JSON text is read off the data of the text -/
theorem data_of_parse {source : BundleSource} {b : Bundle Float} (hsource : ∀ v, source ≠ .data v)
    (h : parse source = .ok b) :
    ∃ v, IsJson AnyFloat (196 + 4) v ∧ ofValue .json v = .ok b := by
  obtain ⟨bs, hbs⟩ : ∃ bs, ofJson bs = .ok b := by
    cases source with
    | text s => exact ⟨_, h⟩
    | bytes bs => exact ⟨bs, h⟩
    | data v => exact absurd rfl (hsource v)
  unfold ofJson at hbs
  cases hread : Json.read Json.bundleNesting bs with
  | error e =>
    rw [hread] at hbs
    exact nomatch hbs
  | ok v =>
    rw [hread] at hbs
    exact ⟨v, Json.read_isJson hread, mapError_eq_ok.mp hbs⟩

/-- a bundle that was parsed from a JSON text has a serialised form -/
theorem view_of_parse {source : BundleSource} {b : Bundle Float} (hsource : ∀ v, source ≠ .data v)
    (h : parse source = .ok b) : b.view = .ok (Json.serial.text b.toValue) := by
  obtain ⟨v, hv, hb⟩ := data_of_parse hsource h
  have hsound : b.Sound (196 + 1) := sound_of_ofValue hv hb
  unfold view
  rw [hsound.document_eq (by decide)]
  rfl

theorem view?_of_parse {source : BundleSource} {b : Bundle Float} (hsource : ∀ v, source ≠ .data v)
    (h : parse source = .ok b) : b.view? = some (Json.serial.text b.toValue) :=
  congrArg Except.toOption (view_of_parse hsource h)

/-- **What is parsed and written can be parsed again.** A bundle from a JSON text whose numbers are all
finite has a serialised form. That is data of a JSON text with finite numbers, no deeper than a text may be
that is parsed, and every text of these data is parsed to the same bundle. An extra key of an interface entry
must have a value: one that is null is left out. -/
theorem parse_toValue {source : BundleSource} {b : Bundle Float} (hsource : ∀ v, source ≠ .data v)
    (h : parse source = .ok b) (hfinite : ∀ x ∈ b.toValue.floats, x.isFinite = true)
    (hnull : ∀ e ∈ b.entries, ∀ f ∈ e.extras, isNull f.2 = false) :
    b.view? = some (Json.serial.text b.toValue) ∧
    IsJson (fun x => x.isFinite = true) Json.bundleNesting b.toValue ∧
    ofValue .json b.toValue = .ok b ∧
    ∀ bs, Json.read Json.bundleNesting bs = .ok b.toValue → parse (.bytes bs) = .ok b := by
  obtain ⟨v, hv, hb⟩ := data_of_parse hsource h
  have hsound : b.Sound (196 + 1) := sound_of_ofValue hv hb
  have hrestored : ofValue .json b.toValue = .ok b :=
    ofValue_toValue .json hsound.address hsound.network (fun e he => (hsound.entries e he).toApart)
      (fun fs hfs => (isJson_entries (hsound.metadata fs hfs)).1) hnull
  refine ⟨view?_of_parse hsource h, (Bundle.isJson hsound hnull).of_floats hfinite, hrestored,
    fun bs hbs => ?_⟩
  show ofJson bs = .ok b
  rw [ofJson, hbs]
  exact mapError_eq_ok.mpr hrestored

/-- a bundle with lists and maps in it, with keys in both spellings, with a field that is spelled twice and
with an extra key -/
def nested : String :=
  "\x7b\"address\": \"0xabc\", \"network\": \"eth\", \"abi\": [\x7b\"stateMutability\": null, " ++
    "\"state_mutability\": 7, \"anonymous\": false\x7d], \"metadata\": \x7b\"k\": [1.5]\x7d, " ++
    "\"token_metrics\": \x7b\"topHolders\": [\x7b\"percentage\": 50\x7d]\x7d, " ++
    "\"transactions\": [\x7b\"from\": \"0x1\"\x7d]\x7d"

theorem parse_toValue_nested :
    ∃ b : Bundle Float, parse (.text nested) = .ok b ∧ b.toValue.floats.length = 3 ∧
      b.view? = some (Json.serial.text b.toValue) ∧ ofValue .json b.toValue = .ok b := by
  have hfacts : (parse (.text nested) : Except BundleError (Bundle Float)).toOption.any (fun b =>
      b.toValue.floats.length = 3 ∧ (∀ x ∈ b.toValue.floats, x.isFinite = true) ∧
      ∀ e ∈ b.entries, ∀ f ∈ e.extras, isNull f.2 = false) = true := by
    show (ofJson (Text.Utf8.bytes nested) : Except BundleError (Bundle Float)).toOption.any _ = true
    unfold nested
    rw [bytes_append, bytes_append, bytes_append, bytes_ofList, bytes_ofList, bytes_ofList, bytes_ofList]
    decide +kernel
  obtain ⟨b, hb, hall⟩ := exists_ok_of_any hfacts
  obtain ⟨hlength, hfinite, hnull⟩ := of_decide_eq_true hall
  obtain ⟨hview, -, hagain, -⟩ := parse_toValue (by nofun) hb hfinite hnull
  exact ⟨b, hb, hlength, hview, hagain⟩

end Bundle

end ContractRisk
