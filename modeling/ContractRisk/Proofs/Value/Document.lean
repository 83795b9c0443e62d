import ContractRisk.Bundle.View
import ContractRisk.Proofs.Value.Steps

/-!
# Data that have documents

A list has a document if its items have, and a map with texts for keys if its values have
(`list_document_isOk_iff`, `textMap_document_isOk_iff`). Each level of containers takes one of the levels that
there are.
-/

namespace ContractRisk.Value

variable {n : Nat}

theorem documents_eq_mapM (n : Nat) (xs : List Value) : documents n xs = xs.mapM (document n) := by
  induction xs with
  | nil => rfl
  | cons x xs ih =>
    rw [List.mapM_cons, ← ih]
    rfl

theorem documentEntries_texts (n : Nat) (fs : List (String × Value)) :
    documentEntries n (fs.map fun f => (text f.1, f.2)) =
      fs.mapM fun f => (document n f.2).map fun w => (text f.1, w) := by
  induction fs with
  | nil => rfl
  | cons f fs ih =>
    have hkey : keyText (text f.1) = .ok f.1 := rfl
    rw [List.map_cons, List.mapM_cons, ← ih, documentEntries, hkey]
    cases document n f.2 <;> rfl

theorem document_list (n : Nat) (xs : List Value) :
    document (n + 1) (list xs) = (xs.mapM (document n)).map list := by
  rw [document, if_neg (Nat.succ_ne_zero n), Nat.add_sub_cancel, documents_eq_mapM]

theorem document_textMap (n : Nat) (fs : List (String × Value)) :
    document (n + 1) (textMap fs) =
      (fs.mapM fun f => (document n f.2).map fun w => (text f.1, w)).map map := by
  rw [textMap, document, if_neg (Nat.succ_ne_zero n), Nat.add_sub_cancel, documentEntries_texts]

theorem list_document_isOk_iff {xs : List Value} :
    (document (n + 1) (list xs)).isOk = true ↔ ∀ x ∈ xs, (document n x).isOk = true := by
  rw [document_list, isOk_map, isOk_mapM_iff]

theorem textMap_document_isOk_iff {fs : List (String × Value)} :
    (document (n + 1) (textMap fs)).isOk = true ↔ ∀ f ∈ fs, (document n f.2).isOk = true := by
  rw [document_textMap, isOk_map, isOk_mapM_iff]
  exact forall₂_congr fun f _ => by rw [isOk_map]

end ContractRisk.Value
