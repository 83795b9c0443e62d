import ContractRisk.Text.CharRange
import ContractRisk.Text.CaseTable

/-!
# Lower case

`lowerChar` is the simple mapping of one character; `lower` maps a text, where a capital sigma at the
end of a word becomes a final sigma and a capital I with a dot becomes two characters. ASCII texts are
mapped as the alphabet is (`lowerFrom_ascii`).
-/

namespace ContractRisk.Text

/-- the image of code point `n` in the runs, if a run holds it -/
def lowerIn (runs : Array (Nat × Nat × Nat × Nat)) (n lo hi : Nat) : Option Nat :=
  if _h : lo < hi then
    let mid := (lo + hi) / 2
    let (first, last, step, image) := runs.getD mid (1, 0, 1, 0)
    if n < first then lowerIn runs n lo mid
    else if last < n then lowerIn runs n (mid + 1) hi
    else if (n - first) % step = 0 then some (image + (n - first)) else none
  else none
termination_by hi - lo

/-- the simple lower-case image -/
def lowerChar (c : Char) : Char :=
  if c.toNat < 128 then c.toLower
  else (lowerIn lowerRuns c.toNat 0 lowerRuns.size).elim c Char.ofNat

def isCased (c : Char) : Bool := CharRange.mem casedRanges c
def isSkipped (c : Char) : Bool := CharRange.mem skippedRanges c

/-- the lower-case characters that have the same upper-case image as `c`, other than `c` -/
def casePartners (c : Char) : List Char :=
  ((sameUpper.find? fun e => e.1 = c.toNat).map fun e => e.2.map Char.ofNat).getD []

/-- the characters other than `c` with the simple lower-case image `c` -/
def capitals (c : Char) : List Char :=
  lowerRuns.toList.filterMap fun (first, last, step, image) =>
    let source := first + (c.toNat - image)
    if image ≤ c.toNat && source ≤ last && (c.toNat - image) % step == 0 then
      some (Char.ofNat source)
    else none

/-- is `c` the lower-case letter `letter`, whatever its case? -/
def isLetter (letter c : Char) : Bool :=
  let low := lowerChar c
  low = letter || (casePartners letter).contains low

/-- is the first character that is not skipped a cased one? -/
def meetsCased (cs : List Char) : Bool :=
  match cs.dropWhile isSkipped with
  | [] => false
  | c :: _ => isCased c

/-- lower case of one character between the (reversed) text before and the text after it -/
def lowerAt (before : List Char) (c : Char) (after : List Char) : List Char :=
  if c.toNat < 128 then [c.toLower]
  else if c = 'Σ' then [if meetsCased before && !meetsCased after then 'ς' else 'σ']
  else if c = 'İ' then ['i', '\u0307']
  else [lowerChar c]

def lowerFrom (before : List Char) : List Char → List Char
  | [] => []
  | c :: r => lowerAt before c r ++ lowerFrom (c :: before) r

def lowerChars (cs : List Char) : List Char := lowerFrom [] cs

def lower (s : String) : String := String.ofList (lowerChars s.toList)

theorem lowerAt_ascii {c : Char} (h : c.toNat < 128) (before after : List Char) :
    lowerAt before c after = [c.toLower] := by
  simp [lowerAt, h]

theorem lowerFrom_nil (before : List Char) : lowerFrom before [] = [] := rfl

theorem lowerFrom_cons (before : List Char) (c : Char) (r : List Char) :
    lowerFrom before (c :: r) = lowerAt before c r ++ lowerFrom (c :: before) r := rfl

theorem lowerFrom_ascii {cs : List Char} (h : ∀ c ∈ cs, c.toNat < 128) (before : List Char) :
    lowerFrom before cs = cs.map Char.toLower := by
  induction cs generalizing before with
  | nil => rfl
  | cons c r ih =>
    rw [lowerFrom_cons, lowerAt_ascii (h c (by simp)), ih fun d hd => h d (by simp [hd])]
    rfl

end ContractRisk.Text
