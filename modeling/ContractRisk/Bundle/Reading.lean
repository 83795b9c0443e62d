import ContractRisk.Bundle
import ContractRisk.Check
import ContractRisk.Json.Reader
import ContractRisk.Scalar

/-!
# Reading bundles

`Bundle.parse` takes JSON text, bytes or data in memory. Keys are spelled in camel case or in snake
case, the first winning where both are present; unknown keys are passed over, except in interface
entries, which keep them, as they keep the losing spelling of data in memory.
-/

namespace ContractRisk

/-- what a bundle is read from -/
inductive BundleSource where
  | text (s : String)
  | bytes (bs : List UInt8)
  | data (v : Value)

/-- why data in memory cannot be seen as keys and values -/
inductive PairFault where
  | notIterable (kind : String)
  | notPair (index : Nat)
  | badKey (kind : String)
deriving Repr, DecidableEq

def PairFault.message : PairFault → String
  | notIterable kind => "'" ++ kind ++ "' object is not iterable"
  | notPair i =>
    "cannot convert dictionary update sequence element #" ++ Text.natText i ++ " to a sequence"
  | badKey kind => "unhashable type: '" ++ kind ++ "'"

/-- why there is no bundle -/
inductive BundleError where
  | invalid (problems : List Problem)
  | notPairs (fault : PairFault)
  | pairLength (index length : Nat)
  | unsupported (kind : String)
deriving Repr, DecidableEq

def BundleError.message : BundleError → String
  | invalid ps => "Invalid contract analysis bundle: " ++ Problem.messages ps
  | notPairs f => "Invalid contract analysis bundle: " ++ f.message
  | pairLength i n =>
    "dictionary update sequence element #" ++ Text.natText i ++ " has length " ++ Text.natText n ++
      "; 2 is required"
  | unsupported kind => "Unsupported bundle type: " ++ kind

/-! ## the parts -/

section
variable {α : Type} [Scalar α] (medium : Medium)

def checkScalar (path : List String) (v : Value) : Check α :=
  Scalar.ofFloat <$> Check.float path v

/-- the declared fields of an interface entry, each by its spellings -/
def AbiEntry.spellings : List (List String) :=
  [["name"], ["type"], ["stateMutability", "state_mutability"], ["inputs"], ["outputs"]]

/-- the keys that are no extra keys: of data in memory those that the declared fields take, of a JSON text
all that spell one -/
def AbiEntry.taken (fs : Fields) : List String :=
  match medium with
  | .memory => spellings.filterMap fun s => (Check.spelled? s fs).map Prod.fst
  | .json => spellings.flatten

/-- the entries with other keys than those that are taken -/
def AbiEntry.checkExtras (taken : List String) (path : List String) (es : List (Value × Value)) :
    Check Fields :=
  (fun fs => Check.overlay [] (fs.filter fun f => !taken.contains f.1)) <$>
    Check.keyed (fun k => ⟨path ++ [Check.keyPart k], .keyNotText⟩) es

def AbiEntry.check (path : List String) (v : Value) : Check AbiEntry :=
  match Check.entries medium "AbiEntry" path v with
  | .error p => .error p
  | .ok es =>
    let fs := Check.fieldsOf es
    let maps := Check.list medium (Check.fields medium)
    mk <$> Check.field fs path ["name"] (.ok none) (Check.optional Check.text)
      <*> Check.field fs path ["type"] (.ok "function") Check.text
      <*> Check.field fs path ["stateMutability", "state_mutability"] (.ok none)
        (Check.optional Check.text)
      <*> Check.field fs path ["inputs"] (.ok []) maps
      <*> Check.field fs path ["outputs"] (.ok []) maps
      <*> checkExtras (taken medium fs) path es

def HolderShare.check (path : List String) (v : Value) : Check (HolderShare α) :=
  match Check.record medium "HolderShare" path v with
  | .error p => .error p
  | .ok fs =>
    mk <$> Check.field fs path ["address"] (.ok "") Check.text
      <*> Check.field fs path ["percentage"] (.ok (Scalar.ofInt 0)) checkScalar

def LiquidityMetrics.check (path : List String) (v : Value) : Check (LiquidityMetrics α) :=
  match Check.record medium "LiquidityMetrics" path v with
  | .error p => .error p
  | .ok fs =>
    mk <$> Check.field fs path ["lockedPercentage", "locked_percentage"] (.ok none)
        (Check.optional checkScalar)
      <*> Check.field fs path ["hasTimelock", "has_timelock"] (.ok none)
        (Check.optional Check.boolean)
      <*> Check.field fs path ["ownerCanRemove", "owner_can_remove"] (.ok none)
        (Check.optional Check.boolean)

def TokenMetrics.check (path : List String) (v : Value) : Check (TokenMetrics α) :=
  match Check.record medium "TokenMetrics" path v with
  | .error p => .error p
  | .ok fs =>
    mk <$> Check.field fs path ["topHolders", "top_holders"] (.ok [])
        (Check.list medium (HolderShare.check medium))
      <*> Check.field fs path ["liquidity"] (.ok none)
        (Check.optional (LiquidityMetrics.check medium))

def TeamMetrics.check (path : List String) (v : Value) : Check (TeamMetrics α) :=
  match Check.record medium "TeamMetrics" path v with
  | .error p => .error p
  | .ok fs =>
    mk <$> Check.field fs path ["stockPhotosDetected", "stock_photos_detected"] (.ok none)
        (Check.optional Check.integer)
      <*> Check.field fs path ["linkedinProfilesValid", "linkedin_profiles_valid"] (.ok none)
        (Check.optional checkScalar)
      <*> Check.field fs path ["consistencyScore", "consistency_score"] (.ok none)
        (Check.optional checkScalar)

def WebsiteMetrics.check (path : List String) (v : Value) : Check (WebsiteMetrics α) :=
  match Check.record medium "WebsiteMetrics" path v with
  | .error p => .error p
  | .ok fs =>
    mk <$> Check.field fs path ["similarityToLegitProject", "similarity_to_legit_project"]
        (.ok none) (Check.optional checkScalar)
      <*> Check.field fs path ["contentCopiedScore", "content_copied_score"] (.ok none)
        (Check.optional checkScalar)
      <*> Check.field fs path ["brandingCopiedScore", "branding_copied_score"] (.ok none)
        (Check.optional checkScalar)

def SocialMetrics.check (path : List String) (v : Value) : Check (SocialMetrics α) :=
  match Check.record medium "SocialMetrics" path v with
  | .error p => .error p
  | .ok fs =>
    mk <$> Check.field fs path ["team"] (.ok none) (Check.optional (TeamMetrics.check medium))
      <*> Check.field fs path ["website"] (.ok none)
        (Check.optional (WebsiteMetrics.check medium))
      <*> Check.field fs path ["botFollowerPercentage", "bot_follower_percentage"] (.ok none)
        (Check.optional checkScalar)
      <*> Check.field fs path ["coordinatedPostingScore", "coordinated_posting_score"] (.ok none)
        (Check.optional checkScalar)
      <*> Check.field fs path ["organicGrowthScore", "organic_growth_score"] (.ok none)
        (Check.optional checkScalar)

def TransactionRecord.check (path : List String) (v : Value) : Check (TransactionRecord α) :=
  match Check.record medium "TransactionRecord" path v with
  | .error p => .error p
  | .ok fs =>
    mk <$> Check.field fs path ["hash"] (.ok "") Check.text
      <*> Check.field fs path ["from_address", "fromAddress", "from"] (.ok "") Check.text
      <*> Check.field fs path ["to_address", "toAddress", "to"] (.ok "") Check.text
      <*> Check.field fs path ["value"] (.ok (Scalar.ofInt 0)) checkScalar
      <*> Check.field fs path ["method"] (.ok "") Check.text
      <*> Check.field fs path ["success"] (.ok true) Check.boolean

/-! ## the whole -/

/-- a text that is not blank, without the blanks around it -/
def checkLabel (path : List String) (v : Value) : Check String :=
  match Check.text path v with
  | .error p => .error p
  | .ok s =>
    let t := Text.trim s
    if t.isEmpty then Check.fail path .blank else .ok t

def Bundle.ofFields (fs : Fields) : Check (Bundle α) :=
  mk <$> Check.required fs [] ["address"] checkLabel
    <*> Check.required fs [] ["network"] checkLabel
    <*> Check.field fs [] ["bytecode"] (.ok none) (Check.optional Check.text)
    <*> Check.field fs [] ["sourceCode", "source_code"] (.ok none) (Check.optional Check.text)
    <*> Check.field fs [] ["abi"] (.ok none)
      (Check.optional (Check.list medium (AbiEntry.check medium)))
    <*> Check.field fs [] ["metadata"] (.ok none) (Check.optional (Check.fields medium))
    <*> Check.field fs [] ["transactions"] (.ok none)
      (Check.optional (Check.list medium (TransactionRecord.check medium)))
    <*> Check.field fs [] ["tokenMetrics", "token_metrics"] (.ok none)
      (Check.optional (TokenMetrics.check medium))
    <*> Check.field fs [] ["socialMetrics", "social_metrics"] (.ok none)
      (Check.optional (SocialMetrics.check medium))

def Bundle.ofValue (v : Value) : Check (Bundle α) :=
  match Check.record medium "ContractAnalysisBundle" [] v with
  | .error p => .error p
  | .ok fs => Bundle.ofFields medium fs

end

/-! ## sources -/

/-- keys and values given as a list of pairs, from index `i` on -/
def pairsOnto (acc : List (Value × Value)) (i : Nat) :
    List Value → Except BundleError (List (Value × Value))
  | [] => .ok acc
  | x :: xs =>
    match x.items? with
    | none => .error (.notPairs (.notPair i))
    | some [k, v] =>
      match k.keyFault? with
      | some bad => .error (.notPairs (.badKey bad.kind))
      | none => pairsOnto (Value.putEntry k v acc) (i + 1) xs
    | some items => .error (.pairLength i items.length)

/-- the entries of data in memory -/
def entriesOf : Value → Except BundleError (List (Value × Value))
  | .map es => .ok es
  | v =>
    match v.items? with
    | none => .error (.notPairs (.notIterable v.kind))
    | some xs => pairsOnto [] 0 xs

variable {α : Type} [Scalar α]

def Bundle.ofJson (bs : List UInt8) : Except BundleError (Bundle α) :=
  match Json.read Json.bundleNesting bs with
  | .error e => .error (.invalid [⟨[], .json e.message⟩])
  | .ok v => (Bundle.ofValue .json v).mapError .invalid

def Bundle.parse : BundleSource → Except BundleError (Bundle α)
  | .text s => Bundle.ofJson (Text.Utf8.bytes s)
  | .bytes bs => Bundle.ofJson bs
  | .data (.text s) => Bundle.ofJson (Text.Utf8.bytes s)
  | .data v => do
    let es ← entriesOf v
    (Bundle.ofFields .memory (Check.fieldsOf es)).mapError .invalid

/-- the bundle of a scan: of data in memory only maps, texts and bytes are taken -/
def Bundle.forScan : BundleSource → Except BundleError (Bundle α)
  | .data (.map es) => Bundle.parse (.data (.map es))
  | .data (.text s) => Bundle.parse (.text s)
  | .data v => .error (.unsupported v.kind)
  | source => Bundle.parse source

end ContractRisk
