import ContractRisk.Pattern.Catalog
import ContractRisk.Proofs.Pattern.Soundness
import ContractRisk.Proofs.Registry.Reachable

/-!
# The built-in catalog is reachable

Every entry of the catalog passes its definition unchanged (`Entry.defines`), and no identifier occurs
twice. So the registry of the catalog comes from the empty one by registering the entries in order
(`Catalog.reachable`), and what holds of all reachable registries holds of it.
-/

namespace ContractRisk

/-! ## indicators that are texts -/

theorem unrepeated_text {ss : List String} (h : ss.Nodup) : Value.Unrepeated (ss.map .text) := by
  refine List.pairwise_map.mpr (h.imp fun hne => ?_)
  simpa [Value.same] using fun e => hne e.symm

theorem distinctItems_text {ss : List String} (h : ss.Nodup) :
    distinctItems (.tuple (ss.map .text)) = .ok (ss.map .text) := by
  refine distinctItems_tuple (unrepeated_text h) fun x hx => ?_
  obtain ⟨s, _, rfl⟩ := List.mem_map.mp hx
  rfl

namespace Catalog

variable {α : Type}

/-! ## entries -/

theorem entry_checks : ∀ e ∈ entries, checkId (.text e.id) = .ok e.id ∧
    (0 ≤ e.confidence ∧ e.confidence ≤ 100) ∧ e.indicators.Nodup := by decide +kernel

/-- an entry passes its own definition unchanged -/
theorem Entry.defines {e : Entry} (h : e ∈ entries)
    (heuristic : String × (Bundle α → List String)) :
    Pattern.Defines (e.pattern heuristic).toDraft (e.pattern heuristic) := by
  obtain ⟨hid, hconfidence, hindicators⟩ := entry_checks e h
  exact {
    id := hid
    confidence := if_pos hconfidence
    version := rfl
    condition := rfl
    severity := severityOf_name e.severity
    category := categoryOf_name e.category
    indicators := distinctItems_text hindicators
    references := rfl
    name := rfl
    description := rfl
    mitigation := rfl
    referenceId := rfl }

/-! ## the registry of all entries -/

variable [Scalar α]

theorem mem_patterns {p : Pattern α} (h : p ∈ patterns) :
    ∃ e ∈ entries, ∃ heuristic, p = e.pattern heuristic := by
  unfold patterns at h
  rw [← List.map_uncurry_zip_eq_zipWith] at h
  obtain ⟨⟨e, heuristic⟩, hm, rfl⟩ := List.mem_map.mp h
  exact ⟨e, (List.of_mem_zip hm).1, heuristic, rfl⟩

theorem nodup_ids : ((patterns (α := α)).map (·.id)).Nodup := by
  show (entries.map Entry.id).Nodup
  decide +kernel

theorem defined {p : Pattern α} (h : p ∈ patterns) : ∃ d, Pattern.define d = .ok p := by
  obtain ⟨e, he, heuristic, rfl⟩ := mem_patterns h
  exact ⟨_, Pattern.define_eq_ok_iff.mpr (Entry.defines he heuristic)⟩

theorem reachable : Registry.Reachable (⟨patterns⟩ : Registry α) :=
  Registry.reachable_of_nodup nodup_ids fun _ => defined

end Catalog

end ContractRisk
