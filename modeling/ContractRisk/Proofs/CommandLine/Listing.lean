import ContractRisk.CommandLine.Table
import ContractRisk.Proofs.Registry.Catalog
import ContractRisk.Proofs.Value.Steps

/-!
# What is shown of a report

The findings that are shown are those at or above a floor, in the order of the report and up to a limit:

* `mem_select_iff`       a finding is shown if it meets the floor and stands before the limit.

A report is listed as a JSON document. What keeps it from that are metadata (`Report.Unlisted`): some have no
document, or hold numbers that are too long to be written.

* `listing_cases`   a report is listed exactly if nothing keeps it from that.

A table shows some of what a pattern says of itself as it is written. The patterns of the catalog have nothing
among it that a terminal does not take (`Catalog.plain`).
-/

namespace ContractRisk

variable {α : Type}

/-! ## findings -/

theorem Severity.position_le_iff (v floor : Severity) :
    Severity.position v.name ≤ Severity.position floor.name ↔ v.atLeast floor = true := by
  cases v <;> cases floor <;> decide

namespace Finding

/-- the findings at or above the floor, if one is given -/
def meeting (floor : Option Severity) (fs : List (Finding α)) : List (Finding α) :=
  fs.filter fun f => floor.all f.severity.atLeast

theorem mem_meeting_iff {floor : Option Severity} {fs : List (Finding α)} {f : Finding α} :
    f ∈ meeting floor fs ↔ f ∈ fs ∧ ∀ v, floor = some v → f.severity.atLeast v = true := by
  rw [meeting, List.mem_filter]
  cases floor <;> simp

theorem select_eq (floor : Option Severity) (limit : Int) (fs : List (Finding α)) :
    select (floor.map Severity.name) limit fs =
      if 0 < limit then (meeting floor fs).take limit.toNat else meeting floor fs := by
  cases floor with
  | none =>
    have hall : meeting none fs = fs := List.filter_true fs
    rw [hall]
    rfl
  | some v =>
    have habove : above v.name fs = meeting (some v) fs := by
      refine List.filter_congr fun f _ => ?_
      exact Bool.eq_iff_iff.mpr (decide_eq_true_iff.trans (Severity.position_le_iff f.severity v))
    rw [← habove]
    cases v <;> rfl

/-- what is shown are the findings at or above the floor that stand before the limit, if there is one -/
theorem mem_select_iff {floor : Option Severity} {limit : Int} {fs : List (Finding α)}
    {f : Finding α} : f ∈ select (floor.map Severity.name) limit fs ↔
      ∃ i : Nat, (meeting floor fs)[i]? = some f ∧ (0 < limit → (i : Int) < limit) := by
  rw [select_eq]
  by_cases hlimit : 0 < limit
  · rw [if_pos hlimit, List.mem_iff_getElem?]
    refine exists_congr fun i => ?_
    rw [List.getElem?_take]
    by_cases hi : i < limit.toNat
    · rw [if_pos hi]
      exact (and_iff_left fun _ => by omega).symm
    · rw [if_neg hi]
      exact ⟨fun h => (nomatch h), fun h => absurd (h.2 hlimit) (by omega)⟩
  · rw [if_neg hlimit, List.mem_iff_getElem?]
    exact exists_congr fun i => (and_iff_left fun h => absurd h hlimit).symm

theorem select_subset (floor : Option Severity) (limit : Int) (fs : List (Finding α)) :
    select (floor.map Severity.name) limit fs ⊆ fs := by
  intro f hf
  obtain ⟨i, hi, -⟩ := mem_select_iff.mp hf
  exact (mem_meeting_iff.mp (List.mem_of_getElem? hi)).1

end Finding

/-! ## what a table shows of patterns -/

/-- a table can show what the pattern says of itself -/
def Pattern.Plain (p : Pattern α) : Prop :=
  ∀ quiet, ∀ t ∈ Report.patternTexts quiet p, Text.hasSurrogate t = false

instance (p : Pattern α) : Decidable p.Plain :=
  inferInstanceAs (Decidable (∀ quiet, ∀ t ∈ Report.patternTexts quiet p, Text.hasSurrogate t = false))

theorem Catalog.entries_plain :
    ∀ e ∈ entries, ∀ t ∈ [e.id, e.name, e.mitigation], Text.hasSurrogate t = false := by
  simp only [entries, List.forall_mem_cons]
  repeat' apply And.intro
  all_goals first
    | exact fun _ h => absurd h List.not_mem_nil
    | (rw [Text.hasSurrogate_ofList]; decide +kernel)

theorem Catalog.Entry.plain {e : Entry} (he : e ∈ entries)
    (heuristic : String × (Bundle α → List String)) : (e.pattern heuristic).Plain := by
  intro quiet t ht
  refine entries_plain e he t ?_
  cases quiet with
  | false => exact ht
  | true => exact List.mem_append_left [e.mitigation] ht

theorem Catalog.plain [Scalar α] : ∀ p ∈ (patterns : List (Pattern α)), p.Plain := by
  intro p hp
  obtain ⟨e, he, heuristic, rfl⟩ := mem_patterns hp
  exact e.plain he heuristic

/-! ## what is listed of findings -/

theorem documentFields_eq_ok_iff {fs gs : List (String × Value)} :
    documentFields fs = .ok gs ↔ List.Forall₂
      (fun f g => ∃ w, f.2.document Value.documentLevels = .ok w ∧ (f.1, w) = g) fs gs := by
  unfold documentFields
  simp only [mapM_eq_ok_iff, map_eq_ok_iff]

theorem documentFields_eq_error {fs : List (String × Value)} {fault : DocumentFault}
    (h : documentFields fs = .error fault) :
    ∃ f ∈ fs, f.2.document Value.documentLevels = .error fault := by
  obtain ⟨done, f, rest, _, rfl, -, hf⟩ := mapM_eq_error_iff.mp h
  exact ⟨f, List.mem_append_right done List.mem_cons_self, map_eq_error_iff.mp hf⟩

theorem Finding.document_isOk_iff [Scalar α] {f : Finding α} : f.document.isOk = true ↔
    ∀ m ∈ f.metadata, (m.2.document Value.documentLevels).isOk = true := by
  unfold document documentFields
  rw [isOk_map, isOk_mapM_iff]
  exact forall₂_congr fun m _ => by rw [isOk_map]

/-- the document of a finding can be written, unless its pattern chose a number that is too long -/
theorem Finding.merged_isWritable_iff [Scalar α] {f g : Finding α} (h : f.document = .ok g) :
    g.merged.isWritable = true ↔ (f.source = .rule → ∀ m ∈ f.metadata, ∀ w,
      m.2.document Value.documentLevels = .ok w → w.merged.isWritable = true) := by
  obtain ⟨metadata, hmetadata, rfl⟩ := map_eq_ok_iff.mp h
  have hall : (metadata.map fun m => (m.1, m.2.merged)).all (·.2.isWritable) = true ↔
      ∀ m ∈ f.metadata, ∀ w, m.2.document Value.documentLevels = .ok w → w.merged.isWritable = true := by
    rw [List.all_map, List.all_eq_true]
    have hdocuments := documentFields_eq_ok_iff.mp hmetadata
    clear h hmetadata
    generalize f.metadata = ms at hdocuments
    induction hdocuments with
    | nil => exact ⟨fun _ _ hm => (nomatch hm), fun _ _ hm => (nomatch hm)⟩
    | cons hm _ ih =>
      obtain ⟨w, hw, rfl⟩ := hm
      rw [List.forall_mem_cons, List.forall_mem_cons]
      refine and_congr ⟨fun hwritable w' hw' => ?_, fun hwritable => hwritable w hw⟩ ih
      rw [← Except.ok.inj (hw.symm.trans hw')]
      exact hwritable
  show (f.source != .rule || (metadata.map fun m => (m.1, m.2.merged)).all (·.2.isWritable)) = true ↔ _
  rw [Bool.or_eq_true, hall, bne_iff_ne]
  exact or_iff_not_imp_left.trans (imp_congr_left not_not)

namespace Report

variable [Scalar α] {r : Report α} {shown : List (Finding α)}

/-- what keeps a report from being listed: metadata without a document, even of a finding that is not shown,
or a number in the metadata of a pattern that is shown and has too many digits -/
inductive Unlisted (r : Report α) (shown : List (Finding α)) : DocumentFault → Prop
  | document {f : Finding α} {m : String × Value} {fault : DocumentFault} (hf : f ∈ r.findings)
    (hm : m ∈ f.metadata) (hfault : m.2.document Value.documentLevels = .error fault) :
    Unlisted r shown fault
  | number {f : Finding α} {m : String × Value} {w : Value} (hf : f ∈ shown) (hsource : f.source = .rule)
    (hm : m ∈ f.metadata) (hw : m.2.document Value.documentLevels = .ok w)
    (hlong : w.merged.isWritable = false) : Unlisted r shown .tooLong

omit [Scalar α] in
/-- findings that have no documents keep a report from being listed -/
theorem unlisted_of_documents {fs : List (Finding α)} (hfs : fs ⊆ r.findings) {fault : DocumentFault}
    (h : fs.mapM Finding.document = .error fault) : r.Unlisted shown fault := by
  obtain ⟨done, f, rest, _, rfl, -, hf⟩ := mapM_eq_error_iff.mp h
  obtain ⟨m, hm, hfault⟩ := documentFields_eq_error (map_eq_error_iff.mp hf)
  exact .document (hfs (List.mem_append_right done List.mem_cons_self)) hm hfault

/-- the documents of the findings that are shown can be written, unless a number is too long -/
theorem all_isWritable_iff {gs : List (Finding α)} (h : shown.mapM Finding.document = .ok gs) :
    (gs.map Finding.merged).all Finding.isWritable = true ↔ ∀ f ∈ shown, f.source = .rule →
      ∀ m ∈ f.metadata, ∀ w, m.2.document Value.documentLevels = .ok w → w.merged.isWritable = true := by
  have hdocuments := mapM_eq_ok_iff.mp h
  clear h
  induction hdocuments with
  | nil => exact ⟨fun _ _ hf => (nomatch hf), fun _ => rfl⟩
  | cons hfg _ ih =>
    rw [List.map_cons, List.all_cons, Bool.and_eq_true, List.forall_mem_cons]
    exact and_congr (Finding.merged_isWritable_iff hfg) ih

/-- **Listings.** A report is listed, unless something in its metadata keeps it from that. -/
theorem listing_cases (elapsed : α) (hshown : shown ⊆ r.findings) :
    (∃ fault, r.listing elapsed shown = .error fault ∧ r.Unlisted shown fault) ∨
      ∃ text, r.listing elapsed shown = .ok text ∧ ∀ fault, ¬ r.Unlisted shown fault := by
  unfold listing
  cases hall : r.findings.mapM Finding.document with
  | error fault => exact .inl ⟨fault, rfl, unlisted_of_documents (List.Subset.refl _) hall⟩
  | ok ds =>
    cases hpart : shown.mapM Finding.document with
    | error fault => exact .inl ⟨fault, rfl, unlisted_of_documents hshown hpart⟩
    | ok gs =>
      have hwritable := all_isWritable_iff hpart
      dsimp only [Bind.bind, Except.bind]
      split
      · next hgs =>
        refine .inr ⟨_, rfl, fun fault hfault => ?_⟩
        cases hfault with
        | document hf hm hfault =>
          have hfound : (r.findings.mapM Finding.document).isOk = true := by rw [hall]; rfl
          have hdocument := Finding.document_isOk_iff.mp (isOk_mapM_iff.mp hfound _ hf) _ hm
          rw [hfault] at hdocument
          exact nomatch hdocument
        | number hf hsource hm hw hlong =>
          rw [hwritable.mp hgs _ hf hsource _ hm _ hw] at hlong
          exact nomatch hlong
      · next hgs =>
        simp only [hwritable, not_forall] at hgs
        obtain ⟨f, hf, hsource, m, hm, w, hw, hlong⟩ := hgs
        exact .inl ⟨_, rfl, .number hf hsource hm hw (Bool.eq_false_iff.mpr hlong)⟩

end Report

end ContractRisk
