import ContractRisk.Value

/-!
# Analysis bundles

A `Bundle` describes the observable properties of one contract. All parts but the address and the
network may be missing. Measured quantities are in `α`.
-/

namespace ContractRisk

/-- one entry of the contract's interface: a function, an event, a constructor -/
structure AbiEntry where
  name : Option String
  type : String
  stateMutability : Option String
  inputs : List (List (String × Value))
  outputs : List (List (String × Value))
  /-- keys beyond the declared ones, in input order -/
  extras : List (String × Value)
deriving Inhabited

structure HolderShare (α : Type) where
  address : String
  percentage : α

structure LiquidityMetrics (α : Type) where
  lockedPercentage : Option α
  hasTimelock : Option Bool
  ownerCanRemove : Option Bool

structure TokenMetrics (α : Type) where
  topHolders : List (HolderShare α)
  liquidity : Option (LiquidityMetrics α)

structure TeamMetrics (α : Type) where
  stockPhotosDetected : Option Int
  linkedinProfilesValid : Option α
  consistencyScore : Option α

structure WebsiteMetrics (α : Type) where
  similarityToLegitProject : Option α
  contentCopiedScore : Option α
  brandingCopiedScore : Option α

structure SocialMetrics (α : Type) where
  team : Option (TeamMetrics α)
  website : Option (WebsiteMetrics α)
  botFollowerPercentage : Option α
  coordinatedPostingScore : Option α
  organicGrowthScore : Option α

structure TransactionRecord (α : Type) where
  hash : String
  fromAddress : String
  toAddress : String
  value : α
  method : String
  success : Bool

structure Bundle (α : Type) where
  address : String
  network : String
  bytecode : Option String
  sourceCode : Option String
  abi : Option (List AbiEntry)
  metadata : Option (List (String × Value))
  transactions : Option (List (TransactionRecord α))
  tokenMetrics : Option (TokenMetrics α)
  socialMetrics : Option (SocialMetrics α)

namespace Bundle

variable {α : Type}

/-- the interface entries, none if the interface is missing -/
def entries (b : Bundle α) : List AbiEntry := b.abi.getD []

/-- the source text, empty if it is missing -/
def source (b : Bundle α) : String := b.sourceCode.getD ""

def liquidity (b : Bundle α) : Option (LiquidityMetrics α) := b.tokenMetrics.bind (·.liquidity)

def holders (b : Bundle α) : List (HolderShare α) := b.tokenMetrics.elim [] (·.topHolders)

def team (b : Bundle α) : Option (TeamMetrics α) := b.socialMetrics.bind (·.team)

def website (b : Bundle α) : Option (WebsiteMetrics α) := b.socialMetrics.bind (·.website)

end Bundle

end ContractRisk
