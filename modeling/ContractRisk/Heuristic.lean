import ContractRisk.Bundle
import ContractRisk.Fault
import ContractRisk.Scalar
import ContractRisk.Text.LetterCase
import ContractRisk.Text.Search
import ContractRisk.Text.WordChar

/-!
# Heuristics

Each heuristic looks at one bundle and gives the lines of evidence for a suspicion, none if it sees no
reason for it. A missing part of the bundle is no evidence, with two exceptions: without source no
supply cap can be seen, and liquidity without a timelock flag counts as unprotected. `answer` is the
evidence of a heuristic unless it breaks, which a number with too many digits makes two of them do.
-/

namespace ContractRisk.Heuristic

variable {α : Type} [Scalar α]

/-! ## markers -/

def buyMarkers : List String := ["buy"]
def sellMarkers : List String := ["sell"]
def restrictionMarkers : List String := ["blacklist", "block", "restrict"]
def feeSetterMarkers : List String := ["setfee", "updatefee", "changefee"]
def banMarkers : List String := ["blacklist", "addtoblock", "ban"]
def mintMarkers : List String := ["mint"]
def supplyCapMarkers : List String := ["maxSupply", "MAX_SUPPLY", "totalSupplyCap"]
def externalCallMarkers : List String := [".call(", ".call\x7b", ".transfer(", ".send("]
def reentrancyGuards : List String := ["nonReentrant", "ReentrancyGuard"]
def mintGuards : List String := ["onlyOwner", "onlyRole", "onlyMinter", "hasRole"]
def oracleMarkers : List String := ["oracle", "getPrice"]

def containsAny (hay : String) (needles : List String) : Bool := needles.any (Text.contains hay)

/-- the interface entries with a name that contains a marker, in any letter case -/
def named (b : Bundle α) (markers : List String) : List AbiEntry :=
  b.entries.filter fun e =>
    match e.name with
    | none => false
    | some n => !n.isEmpty && containsAny (Text.lower n) markers

def names (es : List AbiEntry) : String := ", ".intercalate (es.map fun e => e.name.getD "")

/-- a line for a measure that is there and crosses its limit -/
def line (measure : Option α) (crosses : α → Bool) (text : String → String) : List String :=
  match measure with
  | none => []
  | some x => if crosses x then [text (Scalar.brief x)] else []

/-! ## honeypots -/

/-- buying is possible while selling is missing or can be restricted -/
def asymmetricTrading (b : Bundle α) : List String :=
  let buys := named b buyMarkers
  let sells := named b sellMarkers
  let restrictions := named b restrictionMarkers
  if buys.isEmpty || (!sells.isEmpty && restrictions.isEmpty) then []
  else ["Buy-like functions exposed: " ++ names buys] ++
    (if sells.isEmpty then ["No sell-like function in ABI"] else []) ++
    (if restrictions.isEmpty then []
      else ["Transfer restriction functions: " ++ names restrictions])

def hiddenFeeManipulation (b : Bundle α) : List String :=
  let setters := (named b feeSetterMarkers).filter fun e => e.stateMutability ≠ some "view"
  if setters.isEmpty then []
  else if Text.contains b.source "onlyOwner" && Text.contains b.source "fee" then
    ["Mutable fee setters: " ++ names setters, "Fee changes are restricted to the owner"]
  else []

def blacklistFunctions (b : Bundle α) : List String :=
  let entries := named b banMarkers
  if entries.isEmpty then [] else ["Address ban functions: " ++ names entries]

/-! ## rug pulls -/

def unlimitedMint (b : Bundle α) : List String :=
  let mints := named b mintMarkers
  if mints.isEmpty || containsAny b.source supplyCapMarkers then []
  else ["Mint functions exposed: " ++ names mints,
    if b.source.isEmpty then "No source available to confirm a supply cap"
    else "No max-supply marker in source"]

def minLockedLiquidity : α := 50.0

def liquidityDrainRisk (b : Bundle α) : List String :=
  match b.liquidity with
  | none => []
  | some l =>
    line l.lockedPercentage (fun x => decide (x < minLockedLiquidity))
        (fun x => "Only " ++ x ++ "% of liquidity is locked") ++
      (if l.hasTimelock = some true then [] else ["Liquidity has no timelock"]) ++
      (if l.ownerCanRemove = some true then ["Owner can remove liquidity"] else [])

def topHolderLimit : α := 20.0
def topTenLimit : α := 70.0
def topCount : Nat := 10

def ownershipConcentration (b : Bundle α) : List String :=
  match b.holders with
  | [] => []
  | top :: rest =>
    let topTen := Scalar.sum (((top :: rest).take topCount).map (·.percentage))
    (if topHolderLimit < top.percentage then
      ["Top holder owns " ++ Scalar.brief top.percentage ++ "% of supply"] else []) ++
    (if topTenLimit < topTen then
      ["Top " ++ Text.natText topCount ++ " holders own " ++ Scalar.brief topTen ++ "% of supply"]
      else [])

/-! ## code vulnerabilities -/

def reentrancy (b : Bundle α) : List String :=
  let calls := externalCallMarkers.filter (Text.contains b.source)
  if calls.isEmpty || containsAny b.source reentrancyGuards then []
  else ["External calls found: " ++ ", ".intercalate calls, "No reentrancy guard present"]

def isOperator (c : Char) : Bool := c == '+' || c == '-' || c == '*' || c == '/'

/-- what may stand between the word and the version: comparison signs and blanks -/
def isConstraintChar (c : Char) : Bool :=
  c == '^' || c == '>' || c == '=' || c == '~' || c == '<' || Text.isBlank c

/-- the rest of a text behind a word at its start -/
def after? (word : List Char) (cs : List Char) : Option (List Char) :=
  if word.isPrefixOf cs then some (cs.drop word.length) else none

/-- the number that a row of digits stands for -/
def digitsValue (cs : List Char) : Nat :=
  cs.foldl (fun n c => n * 10 + (Text.digit? c).getD 0) 0

/-- the digits of major and minor version of a compiler pragma that starts here -/
def pragmaHere? (cs : List Char) : Option (List Char × List Char) := do
  let r ← after? "pragma".toList cs
  let first ← r.head?
  if !Text.isBlank first then none
  else
    let r ← after? "solidity".toList (r.dropWhile Text.isBlank)
    let r := r.dropWhile isConstraintChar
    let major := r.takeWhile Text.isDigit
    let r ← after? ['.'] (r.dropWhile Text.isDigit)
    let minor := r.takeWhile Text.isDigit
    if major.isEmpty || minor.isEmpty then none
    else some (major, minor)

/-- the digits of major and minor version of the first compiler pragma -/
def pragma? : List Char → Option (List Char × List Char)
  | [] => none
  | c :: r => (pragmaHere? (c :: r)).or (pragma? r)

/-- does the compiler or a library check arithmetic? -/
def hasCheckedArithmetic (source : String) : Bool :=
  Text.contains source "SafeMath" ||
    match pragma? source.toList with
    | none => false
    | some (major, minor) => 0 < digitsValue major || 8 ≤ digitsValue minor

def integerOverflow (b : Bundle α) : List String :=
  if !b.source.toList.any isOperator || hasCheckedArithmetic b.source then []
  else ["Arithmetic operators used",
    "No SafeMath and compiler predates checked arithmetic (0.8)"]

/-- the length of the first number of the pragma with too many digits, if the version has to be read -/
def longVersion? (source : String) : Option Nat :=
  if !source.toList.any isOperator || Text.contains source "SafeMath" then none
  else do
    let (major, minor) ← pragma? source.toList
    [major.length, minor.length].find? (Text.digitLimit < ·)

def unsafeDelegatecall (b : Bundle α) : List String :=
  if !Text.contains b.source "delegatecall" then []
  else if Text.contains b.source "require(" && Text.contains b.source "address" then []
  else ["delegatecall present", "No require() validation of the target address"]

/-- is the text, in any letter case, the start of the characters? gives what follows it -/
def afterLetters? : List Char → List Char → Option (List Char)
  | [], cs => some cs
  | _ :: _, [] => none
  | l :: ls, c :: cs => if Text.isLetter l c then afterLetters? ls cs else none

/-- `chainlink`, or `band` as a word of its own, behind a character that may be a word character -/
def namesSecondOracle (afterWord : Bool) : List Char → Bool
  | [] => false
  | c :: r =>
    (afterLetters? "chainlink".toList (c :: r)).isSome ||
      (!afterWord &&
        match afterLetters? "band".toList (c :: r) with
        | none => false
        | some rest => (rest.head?.map Text.isWord).getD false == false) ||
      namesSecondOracle (Text.isWord c) r

def priceOracleManipulation (b : Bundle α) : List String :=
  let refs := oracleMarkers.filter (Text.contains b.source)
  if refs.isEmpty then []
  else if namesSecondOracle false b.source.toList || 2 ≤ Text.occurrences b.source "getPrice" then []
  else ["Price source referenced: " ++ ", ".intercalate refs,
    "No multi-source price validation (Chainlink/Band or multiple feeds)"]

/-! ## mint abuse -/

def unguardedMint (b : Bundle α) : List String :=
  let mints := (named b mintMarkers).filter fun e =>
    e.stateMutability ≠ some "view" ∧ e.stateMutability ≠ some "pure"
  if b.source.isEmpty || mints.isEmpty || containsAny b.source mintGuards then []
  else ["State-changing mint functions: " ++ names mints, "No access-control modifier guards minting"]

/-! ## social engineering and phishing -/

def fakeTeam (b : Bundle α) : List String :=
  match b.team with
  | none => []
  | some t =>
    (match t.stockPhotosDetected with
      | none => []
      | some n => if 0 < n then [Text.intText n ++ " stock photos in team profiles"] else []) ++
    line t.linkedinProfilesValid (fun x => decide (x < 50.0))
      (fun x => "Only " ++ x ++ "% of LinkedIn profiles check out") ++
    line t.consistencyScore (fun x => decide (x < 60.0))
      (fun x => "Team profile consistency score " ++ x)

def coordinatedPromotion (b : Bundle α) : List String :=
  match b.socialMetrics with
  | none => []
  | some s =>
    line s.botFollowerPercentage (fun x => decide (40.0 < x))
        (fun x => x ++ "% of followers look like bots") ++
      line s.coordinatedPostingScore (fun x => decide (70.0 < x))
        (fun x => "Coordinated posting score " ++ x) ++
      line s.organicGrowthScore (fun x => decide (x < 30.0))
        (fun x => "Organic growth score " ++ x)

def domainImpersonation (b : Bundle α) : List String :=
  match b.website with
  | none => []
  | some w =>
    line w.similarityToLegitProject (fun x => decide (80.0 < x))
        (fun x => "Website " ++ x ++ "% similar to a known project") ++
      line w.contentCopiedScore (fun x => decide (70.0 < x))
        (fun x => "Copied content score " ++ x) ++
      line w.brandingCopiedScore (fun x => decide (60.0 < x))
        (fun x => "Copied branding score " ++ x)

/-! ## all of them -/

/-- the heuristics under their names -/
def all : List (String × (Bundle α → List String)) :=
  [("asymmetric_trading", asymmetricTrading), ("hidden_fee_manipulation", hiddenFeeManipulation),
    ("blacklist_functions", blacklistFunctions), ("unlimited_mint", unlimitedMint),
    ("liquidity_drain_risk", liquidityDrainRisk),
    ("ownership_concentration", ownershipConcentration), ("reentrancy", reentrancy),
    ("integer_overflow", integerOverflow), ("unsafe_delegatecall", unsafeDelegatecall),
    ("fake_team", fakeTeam), ("coordinated_promotion", coordinatedPromotion),
    ("domain_impersonation", domainImpersonation),
    ("price_oracle_manipulation", priceOracleManipulation), ("unguarded_mint", unguardedMint)]

/-- what the heuristic of that name breaks on: a number that is too long to be read or to be written -/
def fault? (name : String) (b : Bundle α) : Option Fault :=
  if name = "integer_overflow" then
    (longVersion? b.source).map fun digits => .raised "ValueError" (Text.tooLongToRead digits)
  else if name = "fake_team" then
    match b.team.bind (·.stockPhotosDetected) with
    | none => none
    | some n =>
      if 0 < n && !Text.isWritable n then some (.raised "ValueError" Value.unwritable) else none
  else none

/-- the evidence that a heuristic finds, unless it breaks -/
def answer (h : String × (Bundle α → List String)) (b : Bundle α) : Except Fault (List String) :=
  match fault? h.1 b with
  | some f => .error f
  | none => .ok (h.2 b)

omit [Scalar α] in
theorem answer_eq_error_iff {h : String × (Bundle α → List String)} {b : Bundle α} {f : Fault} :
    answer h b = .error f ↔ fault? h.1 b = some f := by
  unfold answer
  cases fault? h.1 b <;> simp

omit [Scalar α] in
theorem answer_eq_ok_iff {h : String × (Bundle α → List String)} {b : Bundle α} {lines : List String} :
    answer h b = .ok lines ↔ fault? h.1 b = none ∧ h.2 b = lines := by
  unfold answer
  cases fault? h.1 b <;> simp

end ContractRisk.Heuristic
