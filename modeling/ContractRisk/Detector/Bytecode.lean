import ContractRisk.Detector
import ContractRisk.Digest.Sha256
import ContractRisk.Text.LetterCase
import ContractRisk.Text.Utf8

/-!
# Bytecode similarity

Compares deployed code with known templates. A fingerprint is a set of function selectors that are
pushed together in the dispatcher of a template; code whose digest is known settles the matter at once.
-/

namespace ContractRisk.Bytecode

/-- lower case, without blanks around it and without the mark of hexadecimal numbers -/
def normalize (code : String) : String :=
  match Text.lowerChars (Text.trimChars code.toList) with
  | '0' :: 'x' :: r => String.ofList r
  | r => String.ofList r

/-- the digest of the normalised code -/
def digest (code : String) : String := Sha256.hexDigest (Text.Utf8.bytes (normalize code))

/-! ## selectors -/

def isHexDigit (c : Char) : Bool := Text.isAsciiDigit c || ('a' ≤ c && c ≤ 'f')

/-- the eight digits of a selector behind the instruction `63` that pushes it -/
def pushed? : List Char → Option (List Char)
  | '6' :: '3' :: r =>
    let s := r.take 8
    if s.length = 8 && s.all isHexDigit then some s else none
  | _ => none

/-- the selectors pushed, reading on behind each one; `skip` characters are still part of the last one -/
def selectorsFrom (skip : Nat) : List Char → List (List Char)
  | [] => []
  | c :: r =>
    if 0 < skip then selectorsFrom (skip - 1) r
    else match pushed? (c :: r) with
      | some s => s :: selectorsFrom 9 r
      | none => selectorsFrom 0 r

/-- each selector once -/
def selectors (code : String) : List String :=
  ((selectorsFrom 0 code.toList).map String.ofList).eraseDups

/-! ## fingerprints -/

structure Fingerprint (α : Type) where
  name : String
  required : List String
  weight : α

variable {α : Type} [Scalar α]

def fingerprints : List (Fingerprint α) := [
  -- mint(address,uint256) and transferOwnership(address)
  ⟨"owner_controlled_mint", ["40c10f19", "f2fde38b"], 0.80⟩,
  -- pause() and unpause()
  ⟨"owner_pausable_transfers", ["8456cb59", "3f4ba83a"], 0.75⟩,
  -- mint(uint256)
  ⟨"open_mint", ["a0712d68"], 0.60⟩,
  -- kill() and destroy()
  ⟨"self_destruct_switch", ["41c0e1b5"], 0.50⟩,
  ⟨"self_destruct_switch", ["83197ef0"], 0.50⟩]

def Fingerprint.isIn (f : Fingerprint α) (found : List String) : Bool :=
  f.required.all found.contains

def exactConfidence : α := 0.99

/-- one minus the product of the misses, but never full confidence -/
def confidence (matched : List (Fingerprint α)) : α :=
  if matched.isEmpty then Scalar.ofInt 0
  else
    let miss := matched.foldl (fun m f => m * ((1.0 : α) - f.weight)) (1.0 : α)
    Scalar.lesser exactConfidence ((1.0 : α) - miss)

/-! ## the detector -/

def exactSignal (digest : String) : Signal α where
  confidence := exactConfidence
  evidence := [.text ("Bytecode hash " ++ String.ofList (digest.toList.take 16) ++
    "… matches a known malicious build")]
  severity := some .high
  metadata := [("bytecode_sha256", .text digest), ("matches", .list [.text "exact_hash"])]

/-- the signal for normalised code -/
def similaritySignal (code digest : String) : Signal α :=
  let found := selectors code
  let matched : List (Fingerprint α) := fingerprints.filter (·.isIn found)
  { confidence := confidence matched
    evidence := matched.map fun f => .text ("Dispatcher matches the " ++ f.name ++ " template")
    severity := none
    metadata := [("bytecode_sha256", .text digest), ("selector_count", .int found.length),
      ("matches", .list (matched.map fun f => .text f.name))] }

def signal (known : List String) (b : Bundle α) : Signal α :=
  let code := normalize (b.bytecode.getD "")
  let digest := digest code
  if (known.map Text.lower).contains digest then exactSignal digest else similaritySignal code digest

/-- what holds of both kinds of signals holds of every signal -/
theorem signal_induction {P : Signal α → Prop} (hexact : ∀ d, P (exactSignal d))
    (hsimilar : ∀ code d, P (similaritySignal code d)) (known : List String) (b : Bundle α) :
    P (signal known b) := by
  unfold signal
  dsimp only
  split
  · exact hexact _
  · exact hsimilar _ _

def applies (b : Bundle α) : Bool := !(normalize (b.bytecode.getD "")).isEmpty

/-- the detector that also knows the digests of some builds -/
def detector {σ : Type} (known : List String) : Detector α σ where
  id := "bytecode_similarity"
  name := .text "Suspicious Bytecode Similarity"
  description := .text "Contract bytecode matches fingerprints of known malicious templates"
  category := .codeVulnerability
  severity := .medium
  threshold := 0.70
  riskScale := 0.60
  indicators := [.text "bytecode_similarity", .text "known_malicious_patterns"]
  mitigation := .text "Investigate bytecode similarities with known threats before interacting"
  applies b := .ok (applies b)
  analyze b state := (.ofSignal (signal known b), state)

end ContractRisk.Bytecode
