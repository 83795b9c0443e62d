import ContractRisk.Bundle.View

/-!
# Bundles as records

`Bundle.record` is a bundle as data under the names of its declared fields; what is missing is there as null.
-/

namespace ContractRisk

variable {α : Type} [Scalar α]

/-- null for what is missing -/
def orNull {β : Type} (f : β → Value) (x : Option β) : Value := x.elim .null f

/-- an interface entry; an extra key hides the field of its name -/
def AbiEntry.record (e : AbiEntry) : Value :=
  let own := [("name", orNull .text e.name), ("type", .text e.type),
    ("state_mutability", orNull .text e.stateMutability),
    ("inputs", .list (e.inputs.map textMap)), ("outputs", .list (e.outputs.map textMap))]
  textMap (own.filter (fun f => !(e.extras.map Prod.fst).contains f.1) ++ e.extras)

def TransactionRecord.record (t : TransactionRecord α) : Value :=
  textMap [("hash", .text t.hash), ("from_address", .text t.fromAddress),
    ("to_address", .text t.toAddress), ("value", scalarValue t.value), ("method", .text t.method),
    ("success", .bool t.success)]

def LiquidityMetrics.record (l : LiquidityMetrics α) : Value :=
  textMap [("locked_percentage", orNull scalarValue l.lockedPercentage),
    ("has_timelock", orNull .bool l.hasTimelock),
    ("owner_can_remove", orNull .bool l.ownerCanRemove)]

def TokenMetrics.record (t : TokenMetrics α) : Value :=
  textMap [("top_holders", .list (t.topHolders.map HolderShare.toValue)),
    ("liquidity", orNull LiquidityMetrics.record t.liquidity)]

def TeamMetrics.record (t : TeamMetrics α) : Value :=
  textMap [("stock_photos_detected", orNull .int t.stockPhotosDetected),
    ("linkedin_profiles_valid", orNull scalarValue t.linkedinProfilesValid),
    ("consistency_score", orNull scalarValue t.consistencyScore)]

def WebsiteMetrics.record (w : WebsiteMetrics α) : Value :=
  textMap [("similarity_to_legit_project", orNull scalarValue w.similarityToLegitProject),
    ("content_copied_score", orNull scalarValue w.contentCopiedScore),
    ("branding_copied_score", orNull scalarValue w.brandingCopiedScore)]

def SocialMetrics.record (s : SocialMetrics α) : Value :=
  textMap [("team", orNull TeamMetrics.record s.team),
    ("website", orNull WebsiteMetrics.record s.website),
    ("bot_follower_percentage", orNull scalarValue s.botFollowerPercentage),
    ("coordinated_posting_score", orNull scalarValue s.coordinatedPostingScore),
    ("organic_growth_score", orNull scalarValue s.organicGrowthScore)]

def Bundle.record (b : Bundle α) : Value :=
  textMap [("address", .text b.address), ("network", .text b.network),
    ("bytecode", orNull .text b.bytecode), ("source_code", orNull .text b.sourceCode),
    ("abi", orNull (fun es => .list (es.map AbiEntry.record)) b.abi),
    ("metadata", orNull textMap b.metadata),
    ("transactions", orNull (fun ts => .list (ts.map TransactionRecord.record)) b.transactions),
    ("token_metrics", orNull TokenMetrics.record b.tokenMetrics),
    ("social_metrics", orNull SocialMetrics.record b.socialMetrics)]

end ContractRisk
