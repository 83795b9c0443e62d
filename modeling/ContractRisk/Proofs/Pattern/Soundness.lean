import ContractRisk.Proofs.Pattern.Definition
import ContractRisk.Proofs.Value.Distinct

/-!
# Patterns pass their own checks

What the checks give, they give again: the fields of a defined pattern define the same pattern. So a
pattern that is `Sound` can be defined anew at any time, which every update does, and only the fields that
the update changes can make it fail.

* `Pattern.Defines.sound`   every defined pattern is sound.
-/

namespace ContractRisk

/-! ## checks of what a check gave -/

theorem severityOf_name (s : Severity) : severityOf (.text s.name) = .ok s := by
  show (Severity.ofName? s.name).elim _ _ = _
  rw [Severity.ofName?_name]
  rfl

theorem categoryOf_name (c : Category) : categoryOf (.text c.name) = .ok c := by
  show (Category.ofName? c.name).elim _ _ = _
  rw [Category.ofName?_name]
  rfl

theorem Version.ofValue?_toValue (n : Version) : ofValue? n.toValue = some n := by cases n <;> rfl

theorem checkVersion_eq_ok {v : Value} {n : Version} (h : checkVersion v = .ok n) :
    n.isBelowOne = false := by
  unfold checkVersion at h
  split at h
  · cases h
  · split at h
    · cases h
    · next hbelow =>
      cases h
      exact Bool.eq_false_iff.mpr hbelow

theorem checkVersion_toValue {n : Version} (h : n.isBelowOne = false) :
    checkVersion n.toValue = .ok n := by
  simp only [checkVersion, Version.ofValue?_toValue, h, Bool.false_eq_true, if_false]

/-- indicators that are accepted are the distinct ones among items that can all be keys -/
theorem distinctItems_given {v : Value} {xs : List Value} (h : distinctItems v = .ok xs) :
    ∃ given, v.items? = some given ∧ (∀ x ∈ given, x.keyFault? = none) ∧ xs = Value.distinct given := by
  unfold distinctItems itemsOf at h
  cases hitems : v.items? with
  | none => rw [hitems] at h; exact nomatch h
  | some given =>
    rw [hitems] at h
    dsimp only [Option.elim_some] at h
    split at h
    · exact nomatch h
    · next hkeys => exact ⟨given, rfl, List.findSome?_eq_none_iff.mp hkeys, (Except.ok.inj h).symm⟩

theorem distinctItems_eq_ok {v : Value} {xs : List Value} (h : distinctItems v = .ok xs) :
    Value.Unrepeated xs ∧ ∀ x ∈ xs, x.keyFault? = none := by
  obtain ⟨given, _, hkeys, rfl⟩ := distinctItems_given h
  exact ⟨Value.unrepeated_distinct given, fun x hx => hkeys x (Value.distinct_subset given hx)⟩

theorem distinctItems_tuple {xs : List Value} (h : Value.Unrepeated xs)
    (hkeys : ∀ x ∈ xs, x.keyFault? = none) : distinctItems (.tuple xs) = .ok xs := by
  simp only [distinctItems, itemsOf, Value.items?, Option.elim_some,
    List.findSome?_eq_none_iff.mpr hkeys, Value.distinct_of_unrepeated h]

namespace Pattern

variable {α : Type}

/-! ## sound patterns -/

/-- a pattern passes the checks unchanged, and its fields are as they demand -/
structure Sound (p : Pattern α) : Prop where
  again : define p.toDraft = .ok p
  notBlank : (Text.trim p.id).isEmpty = false
  unmarked : ∀ mark ∈ [detectorMark, escalationMark], ¬ mark.toList <+: p.id.toList
  confidence : 0 ≤ p.confidence ∧ p.confidence ≤ 100
  version : p.version.isBelowOne = false
  indicators : Value.Unrepeated p.indicators

theorem Defines.sound {d : Draft α} {p : Pattern α} (h : Defines d p) : Sound p := by
  obtain ⟨hid, hblank, hreserved⟩ := checkId_eq_ok h.id
  obtain ⟨hindicators, hkeys⟩ := distinctItems_eq_ok h.indicators
  have hversion := checkVersion_eq_ok h.version
  refine ⟨define_eq_ok_iff.mpr ?_, hblank, ?_, h.confidence_bounds, hversion, hindicators⟩
  · exact {
      id := (congrArg checkId hid).symm.trans h.id
      confidence := if_pos h.confidence_bounds
      version := checkVersion_toValue hversion
      condition := rfl
      severity := severityOf_name p.severity
      category := categoryOf_name p.category
      indicators := distinctItems_tuple hindicators hkeys
      references := rfl
      name := rfl
      description := rfl
      mitigation := rfl
      referenceId := rfl }
  · intro mark hmark hmarked
    have hany := List.any_eq_false.mp hreserved mark hmark
    exact hany (List.isPrefixOf_iff_prefix.mpr hmarked)

end Pattern

end ContractRisk
