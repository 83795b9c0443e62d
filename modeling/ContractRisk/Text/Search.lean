/-!
# Substrings

`occurs needle hay` decides whether one list of characters is a contiguous part of another
(`occurs_iff`); `occurrences` counts disjoint occurrences from the left.
-/

namespace ContractRisk.Text

def occurs (needle : List Char) : List Char → Bool
  | [] => needle.isEmpty
  | c :: r => needle.isPrefixOf (c :: r) || occurs needle r

theorem occurs_iff {needle hay : List Char} : occurs needle hay = true ↔ needle <:+: hay := by
  induction hay with
  | nil => cases needle <;> simp [occurs]
  | cons c r ih => simp [occurs, List.infix_cons_iff, ih]

def contains (hay needle : String) : Bool := occurs needle.toList hay.toList

/-- disjoint occurrences, scanning from the left; `skip` characters are still covered -/
def occurrencesFrom (needle : List Char) (skip : Nat) : List Char → Nat
  | [] => 0
  | c :: r =>
    if 0 < skip then occurrencesFrom needle (skip - 1) r
    else if needle.isPrefixOf (c :: r) then 1 + occurrencesFrom needle (needle.length - 1) r
    else occurrencesFrom needle 0 r

def occurrences (hay needle : String) : Nat := occurrencesFrom needle.toList 0 hay.toList

/-- the texts between the separators `sep` -/
def splitOn (sep : Char) (cs : List Char) : List (List Char) :=
  cs.foldr (fun c acc =>
    if c = sep then [] :: acc
    else match acc with
      | [] => [[c]]
      | w :: ws => (c :: w) :: ws) [[]]

end ContractRisk.Text
