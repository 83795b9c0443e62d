import ContractRisk.Pattern.Entry
import ContractRisk.Proofs.Finding.Making
import ContractRisk.Proofs.Pattern.Definition

/-!
# Patterns that are read from entries

`Pattern.ofFields` reads four fields of an entry and defines the pattern of the draft that they make
(`ofFields_eq_ok_iff`). The draft has texts for its name, its description and its mitigation, whatever
the entry holds there. It takes the indicators as they are:

* `ofEntry_textual_iff`   a pattern that is read from an entry shows nothing but texts exactly if its
  indicators are texts.
-/

namespace ContractRisk

/-! ## looking up -/

theorem entry?_text (key k : String) (v : Value) (es : List (Value × Value)) :
    Value.entry? key ((.text k, v) :: es) = if k = key then some v else Value.entry? key es := by
  simp [Value.entry?, Value.same]

theorem entry?_nil (key : String) : Value.entry? key [] = none := rfl

namespace Pattern

variable {α : Type} {m : Machine}

/-- the draft that is made of an entry -/
def entryDraft (es : List (Value × Value)) (condition : Condition α)
    (indicators references : List Value) (version : Int) : Draft α where
  id := entryText es "id"
  name := entryText es "name"
  description := entryText es "description"
  severity := entryField es "severity"
  confidence := entryField es "confidence"
  category := entryField es "category"
  condition := .inl condition
  indicators := .tuple indicators
  mitigation := .text (mitigationField es).display
  referenceId := entryField es "reference_id"
  references := .tuple references
  version := .int version

/-- a text can be made of a value that stands under a key -/
structure Writes (m : Machine) (key : String) (v : Value) : Prop where
  room : m.hasRoom key v = true
  writable : v.isWritable = true

theorem checkWritable_eq_ok {key : String} {v : Value} {u : Unit} :
    checkWritable m key v = .ok u ↔ Writes m key v := by
  unfold checkWritable
  cases hroom : m.hasRoom key v with
  | false => exact ⟨fun h => (nomatch h), fun h => nomatch hroom.symm.trans h.room⟩
  | true =>
    cases hwritable : v.isWritable with
    | false => exact ⟨fun h => (nomatch h), fun h => nomatch hwritable.symm.trans h.writable⟩
    | true => exact ⟨fun _ => ⟨hroom, hwritable⟩, fun _ => rfl⟩

/-- there is always room for a text that is one already -/
@[simp] theorem writes_text (m : Machine) (key s : String) : Writes m key (.text s) :=
  ⟨decide_eq_true (Nat.zero_le _), rfl⟩

@[simp] theorem checkWritable_text (m : Machine) (key s : String) :
    checkWritable m key (.text s) = .ok () := checkWritable_eq_ok.mpr (writes_text m key s)

/-- texts can be made of the fields of an entry that are shown -/
structure Writable (m : Machine) (es : List (Value × Value)) : Prop where
  name : Writes m "name" (entryField es "name")
  description : Writes m "description" (entryField es "description")
  mitigation : Writes m "mitigation" (mitigationField es)

theorem ofFields_eq_ok_iff {es : List (Value × Value)} {p : Pattern α} :
    ofFields m es = .ok p ↔ Writable m es ∧
      ∃ condition, entryCondition m (entryField es "match") = .ok condition ∧
      ∃ indicators, entryList es "indicators" = .ok indicators ∧
      ∃ references, entryList es "references" = .ok references ∧
      ∃ version, wholeOf ((Value.entry? "version" es).getD (.int 1)) = .ok version ∧
        Defines (entryDraft es condition indicators references version) p := by
  unfold ofFields
  simp only [bind_eq_ok_iff, mapError_eq_ok, define_eq_ok_iff, checkWritable_eq_ok]
  constructor
  · rintro ⟨_, hname, _, hdescription, condition, hcondition, indicators, hindicators, _,
      hmitigation, references, hreferences, version, hversion, hp⟩
    exact ⟨⟨hname, hdescription, hmitigation⟩, condition, hcondition, indicators, hindicators,
      references, hreferences, version, hversion, hp⟩
  · rintro ⟨hwritable, condition, hcondition, indicators, hindicators, references, hreferences,
      version, hversion, hp⟩
    exact ⟨(), hwritable.name, (), hwritable.description, condition, hcondition, indicators,
      hindicators, (), hwritable.mitigation, references, hreferences, version, hversion, hp⟩

/-- an entry has all required keys, and a text can be made of its identifier -/
structure Complete (m : Machine) (es : List (Value × Value)) (id : Value) : Prop where
  keys : ∀ key ∈ requiredKeys, (Value.entry? key es).isSome = true
  identifier : Value.entry? "id" es = some id
  writes : Writes m "id" id

theorem Complete.ofEntry_eq {es : List (Value × Value)} {id : Value} (h : Complete m es id) :
    (ofEntry (.map es) m : Except EntryFault (Pattern α)) =
      (ofFields m es).mapError (.invalid id) := by
  have hmissing : requiredKeys.filter (fun key => (Value.entry? key es).isNone) = [] := by
    rw [List.filter_eq_nil_iff]
    intro key hkey
    rw [Option.isNone_iff_eq_none, ← Option.not_isSome_iff_eq_none, not_not]
    exact h.keys key hkey
  have hid : checkWritable m "id" id = .ok () := checkWritable_eq_ok.mpr h.writes
  simp only [ofEntry, hmissing, h.identifier, Option.getD_some, hid]
  rfl

theorem complete_of_missing {es : List (Value × Value)}
    (hmissing : (requiredKeys.filter fun key => (Value.entry? key es).isNone).isEmpty = true)
    (hwrites : Writes m "id" ((Value.entry? "id" es).getD (.text "?"))) :
    Complete m es ((Value.entry? "id" es).getD (.text "?")) := by
  have hkeys : ∀ key ∈ requiredKeys, (Value.entry? key es).isSome = true := by
    intro key hkey
    have hnone := List.filter_eq_nil_iff.mp (List.isEmpty_iff.mp hmissing) key hkey
    rw [← Option.not_isSome_iff_eq_none.trans Option.isNone_iff_eq_none.symm, not_not] at hnone
    exact hnone
  obtain ⟨id, hid⟩ := Option.isSome_iff_exists.mp (hkeys "id" (by simp [requiredKeys]))
  rw [hid] at hwrites ⊢
  exact ⟨hkeys, hid, hwrites⟩

theorem ofEntry_of_unwritable {es : List (Value × Value)} {id : Value} {cause : EntryCause}
    (hid : Value.entry? "id" es = some id) (h : checkWritable m "id" id = .error cause) :
    (ofEntry (.map es) m : Except EntryFault (Pattern α)) = .error (.noIdText cause) := by
  simp only [ofEntry, hid, Option.getD_some, h]

/-- no text can be made of the identifier of an entry, or the entry is complete, or it is refused as a
definition before its fields are read -/
theorem ofEntry_cases (m : Machine) (v : Value) :
    (∃ es id cause, v = .map es ∧ Value.entry? "id" es = some id ∧
      checkWritable m "id" id = .error cause ∧
      (ofEntry v m : Except EntryFault (Pattern α)) = .error (.noIdText cause)) ∨
    (∃ es id, v = .map es ∧ Complete m es id ∧
      (ofEntry v m : Except EntryFault (Pattern α)) = (ofFields m es).mapError (.invalid id)) ∨
    ∃ f, f.isDefinition = true ∧ (ofEntry v m : Except EntryFault (Pattern α)) = .error f := by
  cases v with
  | map es =>
    cases hcheck : checkWritable m "id" ((Value.entry? "id" es).getD (.text "?")) with
    | error cause =>
      cases hid : Value.entry? "id" es with
      | none =>
        rw [hid] at hcheck
        exact nomatch hcheck.symm.trans (checkWritable_text m "id" "?")
      | some id =>
        rw [hid] at hcheck
        exact .inl ⟨es, id, cause, rfl, hid, hcheck, ofEntry_of_unwritable hid hcheck⟩
    | ok u =>
      cases hmissing : (requiredKeys.filter fun key => (Value.entry? key es).isNone).isEmpty with
      | true =>
        have hcomplete := complete_of_missing hmissing (checkWritable_eq_ok.mp hcheck)
        exact .inr (.inl ⟨es, _, rfl, hcomplete, hcomplete.ofEntry_eq⟩)
      | false =>
        refine .inr (.inr ⟨.missing ((Value.entry? "id" es).getD (.text "?"))
          (requiredKeys.filter fun key => (Value.entry? key es).isNone), rfl, ?_⟩)
        simp only [ofEntry, hcheck, hmissing]
        rfl
  | _ => exact .inr (.inr ⟨.notMap, rfl, rfl⟩)

theorem ofEntry_eq_ok {v : Value} {p : Pattern α} (h : ofEntry v m = .ok p) :
    ∃ es id, v = .map es ∧ Complete m es id ∧ ofFields m es = .ok p := by
  rcases ofEntry_cases (α := α) m v with
    ⟨_, _, _, _, _, _, hv⟩ | ⟨es, id, hmap, hcomplete, hv⟩ | ⟨_, _, hv⟩
  · exact nomatch h.symm.trans hv
  · exact ⟨es, id, hmap, hcomplete, mapError_eq_ok.mp (hv.symm.trans h)⟩
  · exact nomatch h.symm.trans hv

/-- reading an entry makes texts of all that a finding shows, except of the indicators -/
theorem ofEntry_textual_iff {v : Value} {p : Pattern α} (h : ofEntry v m = .ok p) :
    p.Textual ↔ ∀ w ∈ p.indicators, w.IsText := by
  obtain ⟨es, _, _, _, hes⟩ := ofEntry_eq_ok h
  obtain ⟨-, condition, _, indicators, _, references, _, version, _, hp⟩ :=
    ofFields_eq_ok_iff.mp hes
  refine ⟨fun ht => ht.indicators, fun hi => ?_⟩
  have hasText : ∀ {w : Value} {s : String}, w = .text s → w.IsText := by
    rintro _ s rfl
    exact ⟨s, rfl⟩
  exact ⟨hasText hp.name, hasText hp.description, hi, hasText hp.mitigation⟩

end Pattern

end ContractRisk
