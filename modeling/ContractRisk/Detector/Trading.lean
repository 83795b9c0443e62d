import ContractRisk.Detector
import ContractRisk.Text.LetterCase
import ContractRisk.Text.Search

/-!
# Transaction patterns

Looks for two behaviours in the observed transactions: sells that fail while other calls go through, and
one sender that makes most of the activity.
-/

namespace ContractRisk.Trading

variable {α : Type} [Scalar α]

/-- fewer transactions say nothing -/
def enough : Nat := 5

/-- fewer sells say nothing about sells -/
def enoughSells : Nat := 2

def sellMarkers : List String := ["sell", "swapexacttokensfor", "swaptokensforexact"]

def isSell (t : TransactionRecord α) : Bool :=
  let method := Text.lower t.method
  sellMarkers.any (Text.contains method)

/-- how often each sender occurs, in order of first occurrence -/
def counts (senders : List String) : List (String × Nat) :=
  senders.eraseDups.map fun s => (s, senders.count s)

/-- the first one of the most frequent senders -/
def top? (counts : List (String × Nat)) : Option (String × Nat) :=
  counts.foldl (fun best c =>
    match best with
    | none => some c
    | some b => if b.2 < c.2 then some c else some b) none

def senders (ts : List (TransactionRecord α)) : List String :=
  ts.filterMap fun t => if t.fromAddress.isEmpty then none else some (Text.lower t.fromAddress)

def ratio (part whole : Nat) : α := Scalar.ofInt part / Scalar.ofInt whole

structure Sells where
  all : Nat
  failed : Nat

def sells (ts : List (TransactionRecord α)) : Sells :=
  let attempts := ts.filter isSell
  ⟨attempts.length, (attempts.filter (!·.success)).length⟩

/-- the share of failed sells, zero if there are too few -/
def failedRatio (s : Sells) : α :=
  if enoughSells ≤ s.all then ratio s.failed s.all else (0.0 : α)

def sellEvidence (s : Sells) : List String :=
  if enoughSells ≤ s.all ∧ 0 < s.failed then
    [Text.natText s.failed ++ " of " ++ Text.natText s.all ++ " sell attempts reverted"]
  else []

/-- the share of the most frequent sender -/
def dominance (top : Option (String × Nat)) (total : Nat) : α :=
  top.elim (0.0 : α) fun t => ratio t.2 total

def senderEvidence (top : Option (String × Nat)) (share : α) : List String :=
  match top with
  | some (name, _) =>
    if (0.5 : α) < share then
      [name ++ " sent " ++ Decimal.percent (Scalar.toFloat share) ++ " of transactions"]
    else []
  | none => []

def signal (b : Bundle α) : Signal α :=
  let ts := b.transactions.getD []
  if ts.length < enough then ⟨(0.0 : α), [], none, []⟩
  else
    let sells := sells ts
    let failed : α := failedRatio sells
    let top := top? (counts (senders ts))
    let share : α := dominance top ts.length
    { confidence := Scalar.lesser (1.0 : α) (Scalar.greater failed (share * (0.85 : α)))
      evidence := (sellEvidence sells ++ senderEvidence top share).map .text
      severity := none
      metadata := [("transactions", .int ts.length), ("failed_sell_ratio", fourPlaces failed),
        ("sender_dominance", fourPlaces share)] }

def applies (b : Bundle α) : Bool := enough ≤ (b.transactions.getD []).length

def detector {σ : Type} : Detector α σ where
  id := "transaction_patterns"
  name := .text "Suspicious Transaction Patterns"
  description := .text "On-chain activity shows blocked sells or artificial volume"
  category := .liquidityManipulation
  severity := .high
  threshold := 0.70
  riskScale := 0.65
  indicators := [.text "failed_sells", .text "wallet_dominance", .text "artificial_volume"]
  mitigation := .text "Review recent transactions and attempt a small test sell first"
  applies b := .ok (applies b)
  analyze b state := (.ofSignal (signal b), state)

end ContractRisk.Trading
