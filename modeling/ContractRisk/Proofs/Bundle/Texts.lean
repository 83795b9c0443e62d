import ContractRisk.Proofs.Bundle.Parsing
import ContractRisk.Proofs.Json.Texts
import ContractRisk.Proofs.Scan.Screening

/-!
# The texts of a bundle

`Bundle.texts` are the texts in the fields of a bundle, at any depth. All of them are among the texts of the
serialised form (`texts_subset_toValue`), which every bundle has that was parsed. So a condition that looks for
a text is met by every field in which it occurs:

* `Bundle.evidence_of_within`   up to the case of ASCII letters, for plain texts.
-/

namespace ContractRisk
open Text.Utf8 (bytes_append bytes_ofList)

/-! ## fields -/

/-- the names of fields and the texts in their values -/
def fieldTexts (fs : List (String × Value)) : List String := fs.flatMap fun f => f.1 :: f.2.texts

/-- the texts of an interface entry; an extra key without a value is not written -/
def AbiEntry.texts (e : AbiEntry) : List String :=
  e.name.toList ++ [e.type] ++ e.stateMutability.toList ++ e.inputs.flatMap fieldTexts ++
    e.outputs.flatMap fieldTexts ++ fieldTexts (e.extras.filter fun f => !isNull f.2)

section
variable {α : Type}

def TransactionRecord.texts (t : TransactionRecord α) : List String :=
  [t.hash, t.fromAddress, t.toAddress, t.method]

def TokenMetrics.texts (t : TokenMetrics α) : List String := t.topHolders.map (·.address)

/-- the texts in the fields of a bundle -/
def Bundle.texts (b : Bundle α) : List String :=
  [b.address, b.network] ++ b.bytecode.toList ++ b.sourceCode.toList ++
    b.abi.elim [] (·.flatMap AbiEntry.texts) ++ b.metadata.elim [] fieldTexts ++
    b.transactions.elim [] (·.flatMap TransactionRecord.texts) ++ b.tokenMetrics.elim [] TokenMetrics.texts

end

/-! ## serialised fields -/

theorem texts_textMap (fs : List (String × Value)) : (textMap fs).texts = fieldTexts fs := by
  rw [textMap, Value.texts]
  induction fs with
  | nil => rfl
  | cons f fs ih =>
    rw [List.map_cons, Value.textsOfEntries, ih]
    rfl

theorem fieldTexts_subset (fs : List (String × Value)) : fieldTexts fs ⊆ (textMap fs).texts := by
  rw [texts_textMap]
  exact List.Subset.refl _

theorem mem_texts_text (s : String) : s ∈ (Value.text s).texts := List.mem_singleton_self s

section
variable {β : Type} {s k : String} {v : Value} {fs : List (String × Value)}
  {own : List (String × Option Value)}

theorem texts_list_map {f : β → Value} {g : β → List String} (h : ∀ x, g x ⊆ (f x).texts) (xs : List β) :
    xs.flatMap g ⊆ (Value.list (xs.map f)).texts := by
  intro s hs
  obtain ⟨x, hx, hs⟩ := List.mem_flatMap.mp hs
  rw [Value.texts, Value.textsOfAll_eq]
  exact List.mem_flatMap.mpr ⟨f x, List.mem_map_of_mem hx, h x hs⟩

theorem texts_maps (fss : List (List (String × Value))) :
    fss.flatMap fieldTexts ⊆ (Value.list (fss.map textMap)).texts :=
  texts_list_map fieldTexts_subset fss

theorem mem_fieldTexts (h : (k, v) ∈ fs) (hs : s ∈ v.texts) : s ∈ fieldTexts fs :=
  List.mem_flatMap.mpr ⟨_, h, List.mem_cons_of_mem _ hs⟩

theorem mem_present_texts (h : (k, some v) ∈ own) (hs : s ∈ v.texts) : s ∈ fieldTexts (present own) :=
  mem_fieldTexts (List.mem_filterMap.mpr ⟨_, h, rfl⟩) hs

/-- the texts of a part, if it is there -/
theorem mem_part_texts {x : Option β} {f : β → Value} {g : β → List String} (h : (k, x.map f) ∈ own)
    (hsub : ∀ y, g y ⊆ (f y).texts) (hs : s ∈ x.elim [] g) : s ∈ fieldTexts (present own) := by
  cases x with
  | none => exact nomatch hs
  | some y => exact mem_present_texts h (hsub y hs)

/-- the text of a field that is a text, if it is there -/
theorem mem_text_texts {x : Option String} (h : (k, x.map .text) ∈ own) (hs : s ∈ x.toList) :
    s ∈ fieldTexts (present own) := by
  obtain rfl := Option.mem_toList.mp hs
  exact mem_present_texts h (mem_texts_text s)

end

theorem AbiEntry.texts_subset_toValue (e : AbiEntry) : e.texts ⊆ e.toValue.texts := by
  intro s hs
  rw [toValue, texts_textMap, fieldTexts, List.flatMap_append, List.mem_append]
  simp only [texts, List.mem_append] at hs
  rcases hs with ((((hname | htype) | hmutability) | hinputs) | houtputs) | hextras
  · exact .inl (mem_text_texts (k := "name") (by simp) hname)
  · exact .inl (mem_text_texts (k := "type") (x := some e.type) (by simp) htype)
  · exact .inl (mem_text_texts (k := "stateMutability") (by simp) hmutability)
  · exact .inl (mem_present_texts (k := "inputs") (by simp) (texts_maps e.inputs hinputs))
  · exact .inl (mem_present_texts (k := "outputs") (by simp) (texts_maps e.outputs houtputs))
  · exact .inr hextras

section
variable {α : Type} [Scalar α]

theorem TransactionRecord.texts_subset_toValue (t : TransactionRecord α) :
    t.texts ⊆ t.toValue.texts := by
  intro s hs
  rw [toValue, texts_textMap]
  simp only [texts, List.mem_cons, List.not_mem_nil, or_false] at hs
  rcases hs with rfl | rfl | rfl | rfl
  · exact mem_fieldTexts (k := "hash") (by simp) (mem_texts_text _)
  · exact mem_fieldTexts (k := "fromAddress") (by simp) (mem_texts_text _)
  · exact mem_fieldTexts (k := "toAddress") (by simp) (mem_texts_text _)
  · exact mem_fieldTexts (k := "method") (by simp) (mem_texts_text _)

theorem HolderShare.address_mem_toValue (h : HolderShare α) : h.address ∈ h.toValue.texts := by
  rw [toValue, texts_textMap]
  exact mem_fieldTexts (k := "address") (by simp) (mem_texts_text _)

theorem TokenMetrics.texts_subset_toValue (t : TokenMetrics α) : t.texts ⊆ t.toValue.texts := by
  intro s hs
  obtain ⟨h, hh, rfl⟩ := List.mem_map.mp hs
  have hholders := texts_list_map (f := HolderShare.toValue) (g := fun h => [h.address])
    (fun h _ hs => List.mem_singleton.mp hs ▸ h.address_mem_toValue) t.topHolders
  rw [toValue, texts_textMap]
  exact mem_present_texts (k := "topHolders") (by simp)
    (hholders (List.mem_flatMap.mpr ⟨h, hh, List.mem_singleton_self _⟩))

/-- every text of a bundle is among the texts of its serialised form -/
theorem Bundle.texts_subset_toValue (b : Bundle α) : b.texts ⊆ b.toValue.texts := by
  intro s hs
  rw [toValue, texts_textMap]
  simp only [texts, List.mem_append] at hs
  rcases hs with ((((((hlabels | hcode) | hsource) | habi) | hmetadata) | htransactions) | hmetrics)
  · simp only [List.mem_cons, List.not_mem_nil, or_false] at hlabels
    rcases hlabels with rfl | rfl
    · exact mem_present_texts (k := "address") (by simp) (mem_texts_text b.address)
    · exact mem_present_texts (k := "network") (by simp) (mem_texts_text b.network)
  · exact mem_text_texts (k := "bytecode") (by simp) hcode
  · exact mem_text_texts (k := "sourceCode") (by simp) hsource
  · exact mem_part_texts (k := "abi") (by simp) (texts_list_map AbiEntry.texts_subset_toValue) habi
  · exact mem_part_texts (k := "metadata") (by simp) fieldTexts_subset hmetadata
  · exact mem_part_texts (k := "transactions") (by simp)
      (texts_list_map TransactionRecord.texts_subset_toValue) htransactions
  · exact mem_part_texts (k := "tokenMetrics") (by simp) TokenMetrics.texts_subset_toValue hmetrics

end

/-! ## the serialised text -/

namespace Bundle

/-- **Texts are found through the serialised form.** Of a bundle that was parsed from a JSON text, any text in
its fields and any text that is not empty, is made of plain characters and occurs in it up to the case of ASCII
letters: the condition that looks for the latter is met, whatever surrounds it. -/
theorem evidence_of_within {source : BundleSource} {b : Bundle Float} (hsource : ∀ v, source ≠ .data v)
    (h : parse source = .ok b) {s t : String} (hs : s ∈ b.texts) (ht : t ≠ "")
    (hplain : ∀ c ∈ t.toList, Json.IsPlain c) (hwithin : Text.Within t s) :
    ∃ c, Condition.ofText t = .ok c ∧ c.evidenceIn b = .ok (some ["Bundle contains '" ++ t ++ "'"]) := by
  have hempty : t.isEmpty = false := by simpa using ht
  have hquoted : (Json.quoted false s).toList <:+: (Json.serial.text b.toValue).toList :=
    Json.quoted_infix_write Json.serial 0 b.toValue s (b.texts_subset_toValue hs)
  have hfound := Json.contains_of_within hplain hwithin hquoted
  refine ⟨.contains t, if_neg (by simp [hempty]), ?_⟩
  show (View.of b).lowered.1.map _ = _
  rw [(View.Faithful.of_bundle b).lowered_eq.1, view_of_parse hsource h]
  exact congrArg Except.ok (if_pos hfound)

/-- a bundle with an interface entry and metadata around a text -/
def layered : String :=
  "\x7b\"address\": \"0xabc\", \"network\": \"eth\", \"abi\": [\x7b\"type\": \"function\", " ++
    "\"name\": \"setFee\"\x7d], \"metadata\": \x7b\"k\": [1, \x7b\"note\": " ++
    "\"ΑΣ\\n\\\"Owner CAN mint\\u0001İ\"\x7d]\x7d\x7d"

theorem evidence_of_within_layered :
    ∃ (b : Bundle Float) (c : Condition Float), parse (.text layered) = .ok b ∧
      Condition.ofText "owner can MINT" = .ok c ∧
      c.evidenceIn b = .ok (some ["Bundle contains 'owner can MINT'"]) := by
  have hfacts : (parse (.text layered) : Except BundleError (Bundle Float)).toOption.any (fun b =>
      b.texts.any fun s => Text.Within "owner can MINT" s) = true := by
    show (ofJson (Text.Utf8.bytes layered) : Except BundleError (Bundle Float)).toOption.any _ = true
    unfold layered
    rw [bytes_append, bytes_append, bytes_ofList, bytes_ofList, bytes_ofList]
    decide +kernel
  obtain ⟨b, hb, hany⟩ := exists_ok_of_any hfacts
  obtain ⟨s, hs, hwithin⟩ := List.any_eq_true.mp hany
  have hplain : ∀ c ∈ "owner can MINT".toList, Json.IsPlain c := by simp [Json.IsPlain]
  obtain ⟨c, hc, hevidence⟩ :=
    evidence_of_within (by nofun) hb hs (by decide) hplain (of_decide_eq_true hwithin)
  exact ⟨b, c, hb, hc, hevidence⟩

end Bundle

end ContractRisk
