import ContractRisk.Pattern

/-!
# The built-in catalog

Fourteen patterns, one for each heuristic, in registration order. The letters of an identifier say the
category: HP honeypot, RP rug pull, CV code vulnerability, SE social engineering, PH phishing,
LM liquidity manipulation, MA mint abuse.
-/

namespace ContractRisk.Catalog

/-- a pattern whose condition is a heuristic -/
structure Entry where
  id : String
  name : String
  description : String
  severity : Severity
  confidence : Int
  category : Category
  indicators : List String
  mitigation : String
  referenceId : Option String

def Entry.pattern {α : Type} (e : Entry) (heuristic : String × (Bundle α → List String)) : Pattern α where
  id := e.id
  name := .text e.name
  description := .text e.description
  severity := e.severity
  confidence := e.confidence
  category := e.category
  condition := .predicate (.ofHeuristic heuristic)
  indicators := e.indicators.map .text
  mitigation := .text e.mitigation
  referenceId := e.referenceId.elim .null .text
  references := []
  version := .whole 1

/-- the patterns in the order of the heuristics behind them -/
def entries : List Entry := [
  ⟨"HP001", "Asymmetric Trading Pattern",
    "Contract allows buys but restricts or prevents sells",
    .critical, 95, .honeypot,
    ["buy_function_present", "sell_function_restricted", "transfer_limitations"],
    "Test sell functionality on a testnet fork before investing", some "HONEYPOT-001"⟩,
  ⟨"HP002", "Hidden Fee Manipulation",
    "Owner can change fees dynamically, up to blocking exits entirely",
    .critical, 90, .honeypot,
    ["dynamic_fee_modification", "owner_only_fee_control", "no_fee_limits"],
    "Verify fee modification functions and their upper bounds", none⟩,
  ⟨"HP003", "Blacklist Honeypot",
    "Contract can blacklist addresses and stop them from trading",
    .high, 88, .honeypot,
    ["blacklist_function", "owner_controlled_blacklist", "no_blacklist_removal"],
    "Check blacklist functions and who governs them", none⟩,
  ⟨"RP001", "Unlimited Mint Authority",
    "Owner can mint unlimited tokens and dilute holders",
    .critical, 92, .rugPull,
    ["mint_function_present", "no_mint_cap", "owner_mint_control"],
    "Verify mint functions are disabled, capped or properly governed", none⟩,
  ⟨"RP002", "Liquidity Drain Risk",
    "Liquidity can be removed without warning or time delay",
    .critical, 85, .rugPull,
    ["unlocked_liquidity", "owner_liquidity_control", "no_timelock"],
    "Verify liquidity is locked for a sufficient duration", none⟩,
  ⟨"RP003", "Ownership Concentration",
    "A single entity or small group controls most of the supply",
    .high, 80, .rugPull,
    ["high_owner_balance", "few_large_holders", "concentrated_supply"],
    "Monitor large holder activity and size positions accordingly", none⟩,
  ⟨"CV001", "Reentrancy Vulnerability",
    "External calls are made without a reentrancy guard",
    .high, 85, .codeVulnerability,
    ["external_call_before_state_change", "no_reentrancy_guard", "state_modification_after_call"],
    "Add reentrancy guards and follow checks-effects-interactions", some "SWC-107"⟩,
  ⟨"CV002", "Integer Overflow/Underflow",
    "Arithmetic operations without overflow protection",
    .medium, 75, .codeVulnerability,
    ["unchecked_arithmetic", "no_safemath", "potential_overflow"],
    "Use SafeMath or compile with Solidity 0.8+ checked arithmetic", some "SWC-101"⟩,
  ⟨"CV003", "Delegatecall to Untrusted Contract",
    "delegatecall target is not validated",
    .critical, 95, .codeVulnerability,
    ["delegatecall_present", "user_controlled_target", "no_address_validation"],
    "Validate delegatecall targets and restrict them to trusted contracts", some "SWC-112"⟩,
  ⟨"SE001", "Fake Team Information",
    "Team profiles appear fabricated or stolen",
    .high, 70, .socialEngineering,
    ["stock_photos_detected", "fake_linkedin_profiles", "inconsistent_information"],
    "Verify team credentials and look for a genuine social presence", none⟩,
  ⟨"SE002", "Coordinated Promotion Campaign",
    "Artificial hype driven by bots and coordinated accounts",
    .medium, 65, .socialEngineering,
    ["bot_followers", "coordinated_posts", "inorganic_growth"],
    "Look for organic community growth and genuine engagement", none⟩,
  ⟨"PH001", "Domain Impersonation",
    "Website or socials impersonate a legitimate project",
    .high, 88, .phishing,
    ["similar_domain", "copied_content", "fake_branding"],
    "Always verify official websites and social accounts", none⟩,
  ⟨"LM001", "Flash Loan Manipulation",
    "Price is read from a single manipulable source",
    .high, 82, .liquidityManipulation,
    ["single_dex_price_oracle", "no_price_validation", "large_price_impact_possible"],
    "Use time-weighted average prices and multiple oracle sources", none⟩,
  ⟨"MA001", "Unguarded Mint Function",
    "Mint can be called without any access-control modifier",
    .high, 78, .mintAbuse,
    ["mint_function_present", "no_access_control", "public_mint"],
    "Restrict minting to a governed role or remove it", none⟩]

variable {α : Type} [Scalar α]

def patterns : List (Pattern α) := entries.zipWith Entry.pattern Heuristic.all

end ContractRisk.Catalog
