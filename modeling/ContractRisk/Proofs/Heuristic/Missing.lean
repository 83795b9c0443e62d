import ContractRisk.Heuristic
import Mathlib.Data.List.Basic

/-!
# Heuristics and missing parts

`Bundle.without` erases any set of the parts that may be missing, at every depth. What the heuristics find
afterwards they have found before, with the two exceptions that absence itself is suspicious for:

* `evidence_without`   the evidence is a sublist of the evidence before, unless a source text was erased and
  no supply cap can be seen any more, or a timelock was erased and the liquidity counts as unprotected.

Heuristics over code read the interface and the source alone (`Bundle.ofCode`), so that what is missing is
an empty list or an empty text. Heuristics over measures give a line for each measure (`line_left`).
-/

namespace ContractRisk

variable {α : Type}

/-! ## erasing parts -/

/-- the parts of a bundle that may be missing -/
inductive BundlePart where
  | bytecode
  | sourceCode
  | abi
  | metadata
  | transactions
  | tokenMetrics
  | liquidity
  | lockedPercentage
  | hasTimelock
  | ownerCanRemove
  | socialMetrics
  | team
  | stockPhotosDetected
  | linkedinProfilesValid
  | consistencyScore
  | website
  | similarityToLegitProject
  | contentCopiedScore
  | brandingCopiedScore
  | botFollowerPercentage
  | coordinatedPostingScore
  | organicGrowthScore
deriving DecidableEq

/-- what is left of a part -/
def BundlePart.left {β : Type} (gone : BundlePart → Bool) (p : BundlePart) (x : Option β) : Option β :=
  if gone p then none else x

open BundlePart (left)

section
variable (gone : BundlePart → Bool)

def LiquidityMetrics.without (l : LiquidityMetrics α) : LiquidityMetrics α where
  lockedPercentage := left gone .lockedPercentage l.lockedPercentage
  hasTimelock := left gone .hasTimelock l.hasTimelock
  ownerCanRemove := left gone .ownerCanRemove l.ownerCanRemove

def TokenMetrics.without (t : TokenMetrics α) : TokenMetrics α where
  topHolders := t.topHolders
  liquidity := left gone .liquidity (t.liquidity.map (·.without gone))

def TeamMetrics.without (t : TeamMetrics α) : TeamMetrics α where
  stockPhotosDetected := left gone .stockPhotosDetected t.stockPhotosDetected
  linkedinProfilesValid := left gone .linkedinProfilesValid t.linkedinProfilesValid
  consistencyScore := left gone .consistencyScore t.consistencyScore

def WebsiteMetrics.without (w : WebsiteMetrics α) : WebsiteMetrics α where
  similarityToLegitProject := left gone .similarityToLegitProject w.similarityToLegitProject
  contentCopiedScore := left gone .contentCopiedScore w.contentCopiedScore
  brandingCopiedScore := left gone .brandingCopiedScore w.brandingCopiedScore

def SocialMetrics.without (s : SocialMetrics α) : SocialMetrics α where
  team := left gone .team (s.team.map (·.without gone))
  website := left gone .website (s.website.map (·.without gone))
  botFollowerPercentage := left gone .botFollowerPercentage s.botFollowerPercentage
  coordinatedPostingScore := left gone .coordinatedPostingScore s.coordinatedPostingScore
  organicGrowthScore := left gone .organicGrowthScore s.organicGrowthScore

/-- the bundle without the parts that are gone -/
def Bundle.without (b : Bundle α) : Bundle α where
  address := b.address
  network := b.network
  bytecode := left gone .bytecode b.bytecode
  sourceCode := left gone .sourceCode b.sourceCode
  abi := left gone .abi b.abi
  metadata := left gone .metadata b.metadata
  transactions := left gone .transactions b.transactions
  tokenMetrics := left gone .tokenMetrics (b.tokenMetrics.map (·.without gone))
  socialMetrics := left gone .socialMetrics (b.socialMetrics.map (·.without gone))

end

section
variable {gone : BundlePart → Bool} {p : BundlePart} {β : Type}

theorem BundlePart.left_of_gone (h : gone p = true) (x : Option β) : left gone p x = none := if_pos h

theorem BundlePart.left_of_not_gone (h : gone p = false) (x : Option β) : left gone p x = x :=
  if_neg (Bool.eq_false_iff.mp h)

theorem BundlePart.left_eq (gone : BundlePart → Bool) (p : BundlePart) (x : Option β) :
    left gone p x = none ∨ left gone p x = x := ite_eq_or_eq _ _ _

/-- a part of a part, each of which may have been left out -/
theorem BundlePart.bind_left_eq {γ : Type} {x x' : Option β} {f : β → β} {g : γ → γ}
    {part : β → Option γ} (hx : x' = none ∨ x' = x.map f)
    (hpart : ∀ y, part (f y) = none ∨ part (f y) = (part y).map g) :
    x'.bind part = none ∨ x'.bind part = (x.bind part).map g := by
  rcases hx with rfl | rfl
  · exact .inl rfl
  · cases x with
    | none => exact .inl rfl
    | some y => exact hpart y

end

/-! ## what the heuristics read -/

namespace Bundle

/-- a bundle of nothing but an interface and a source text -/
def ofCode (es : List AbiEntry) (source : String) : Bundle α :=
  ⟨"", "", none, some source, some es, none, none, none, none⟩

variable (gone : BundlePart → Bool) (b : Bundle α)

theorem entries_without : (b.without gone).entries = [] ∨ (b.without gone).entries = b.entries := by
  unfold entries without
  rcases BundlePart.left_eq gone .abi b.abi with h | h
  · exact .inl (by rw [h]; rfl)
  · exact .inr (by rw [h])

theorem source_of_gone {gone : BundlePart → Bool} (h : gone .sourceCode = true) :
    (b.without gone).source = "" := by
  unfold source without
  rw [BundlePart.left_of_gone h]
  rfl

theorem source_of_not_gone {gone : BundlePart → Bool} (h : gone .sourceCode = false) :
    (b.without gone).source = b.source := by
  unfold source without
  rw [BundlePart.left_of_not_gone h]

theorem tokenMetrics_without : (b.without gone).tokenMetrics = none ∨
    (b.without gone).tokenMetrics = b.tokenMetrics.map (·.without gone) :=
  BundlePart.left_eq gone .tokenMetrics (b.tokenMetrics.map (TokenMetrics.without gone))

theorem liquidity_without : (b.without gone).liquidity = none ∨
    (b.without gone).liquidity = b.liquidity.map (·.without gone) :=
  BundlePart.bind_left_eq (b.tokenMetrics_without gone)
    fun t => BundlePart.left_eq gone .liquidity (t.liquidity.map (LiquidityMetrics.without gone))

theorem holders_without : (b.without gone).holders = [] ∨ (b.without gone).holders = b.holders := by
  unfold holders
  rcases b.tokenMetrics_without gone with h | h
  · exact .inl (by rw [h]; rfl)
  · rw [h]
    cases b.tokenMetrics <;> exact .inr rfl

theorem socialMetrics_without : (b.without gone).socialMetrics = none ∨
    (b.without gone).socialMetrics = b.socialMetrics.map (·.without gone) :=
  BundlePart.left_eq gone .socialMetrics (b.socialMetrics.map (SocialMetrics.without gone))

theorem team_without : (b.without gone).team = none ∨
    (b.without gone).team = b.team.map (·.without gone) :=
  BundlePart.bind_left_eq (b.socialMetrics_without gone)
    fun s => BundlePart.left_eq gone .team (s.team.map (TeamMetrics.without gone))

theorem website_without : (b.without gone).website = none ∨
    (b.without gone).website = b.website.map (·.without gone) :=
  BundlePart.bind_left_eq (b.socialMetrics_without gone)
    fun s => BundlePart.left_eq gone .website (s.website.map (WebsiteMetrics.without gone))

end Bundle

namespace Heuristic

/-! ## heuristics over code -/

/-- a heuristic that reads nothing but code, and finds no more without an interface -/
structure ReadsCode (h : Bundle α → List String) : Prop where
  reads : ∀ b, h b = h (.ofCode b.entries b.source)
  entries : ∀ es s, (h (.ofCode [] s)).Sublist (h (.ofCode es s))

/-- a heuristic over code that finds no more without a source text either -/
structure NeedsCode (h : Bundle α → List String) : Prop extends ReadsCode h where
  source : ∀ es s, (h (.ofCode es "")).Sublist (h (.ofCode es s))

section
variable {gone : BundlePart → Bool} {h : Bundle α → List String}

theorem ReadsCode.sublist (hh : ReadsCode h) {b : Bundle α}
    (hsource : (h (.ofCode b.entries (b.without gone).source)).Sublist
      (h (.ofCode b.entries b.source))) : (h (b.without gone)).Sublist (h b) := by
  rw [hh.reads b, hh.reads (b.without gone)]
  rcases b.entries_without gone with h | h
  · rw [h]
    exact (hh.entries b.entries _).trans hsource
  · rw [h]
    exact hsource

theorem NeedsCode.sublist (hh : NeedsCode h) (gone : BundlePart → Bool) (b : Bundle α) :
    (h (b.without gone)).Sublist (h b) := by
  refine hh.toReadsCode.sublist ?_
  cases hgone : gone .sourceCode with
  | false => rw [b.source_of_not_gone hgone]
  | true =>
    rw [b.source_of_gone hgone]
    exact hh.source b.entries b.source

end

theorem asymmetricTrading_needsCode : NeedsCode (asymmetricTrading : Bundle α → List String) where
  reads _ := rfl
  entries _ _ := List.nil_sublist _
  source _ _ := .refl _

theorem hiddenFeeManipulation_needsCode :
    NeedsCode (hiddenFeeManipulation : Bundle α → List String) where
  reads _ := rfl
  entries _ _ := List.nil_sublist _
  source es s := by
    have hnone : hiddenFeeManipulation (.ofCode es "" : Bundle α) = [] := ite_self _
    rw [hnone]
    exact List.nil_sublist _

theorem blacklistFunctions_needsCode : NeedsCode (blacklistFunctions : Bundle α → List String) where
  reads _ := rfl
  entries _ _ := List.nil_sublist _
  source _ _ := .refl _

theorem reentrancy_needsCode : NeedsCode (reentrancy : Bundle α → List String) where
  reads _ := rfl
  entries _ _ := .refl _
  source _ _ := List.nil_sublist _

theorem integerOverflow_needsCode : NeedsCode (integerOverflow : Bundle α → List String) where
  reads _ := rfl
  entries _ _ := .refl _
  source _ _ := List.nil_sublist _

theorem unsafeDelegatecall_needsCode : NeedsCode (unsafeDelegatecall : Bundle α → List String) where
  reads _ := rfl
  entries _ _ := .refl _
  source _ _ := List.nil_sublist _

theorem priceOracleManipulation_needsCode :
    NeedsCode (priceOracleManipulation : Bundle α → List String) where
  reads _ := rfl
  entries _ _ := .refl _
  source _ _ := List.nil_sublist _

theorem unguardedMint_needsCode : NeedsCode (unguardedMint : Bundle α → List String) where
  reads _ := rfl
  entries es s := by
    have hnone : unguardedMint (.ofCode [] s : Bundle α) = [] := by
      unfold unguardedMint
      exact if_pos (by simp [named, Bundle.ofCode, Bundle.entries])
    rw [hnone]
    exact List.nil_sublist _
  source _ _ := List.nil_sublist _

theorem unlimitedMint_readsCode : ReadsCode (unlimitedMint : Bundle α → List String) where
  reads _ := rfl
  entries _ _ := List.nil_sublist _

theorem unlimitedMint_ofCode_empty (es : List AbiEntry) :
    unlimitedMint (.ofCode es "" : Bundle α) =
      if (named (.ofCode es "" : Bundle α) mintMarkers).isEmpty then []
      else ["Mint functions exposed: " ++ names (named (.ofCode es "" : Bundle α) mintMarkers),
        "No source available to confirm a supply cap"] := by
  have hcap : containsAny "" supplyCapMarkers = false := rfl
  show (if (_ || containsAny "" supplyCapMarkers) = true then [] else _) = _
  rw [hcap, Bool.or_false]
  rfl

/-- without a source text the minting functions alone are evidence -/
theorem unlimitedMint_without (gone : BundlePart → Bool) (b : Bundle α) :
    (unlimitedMint (b.without gone)).Sublist (unlimitedMint b) ∨
      gone .sourceCode = true ∧ b.source ≠ "" ∧ unlimitedMint (b.without gone) =
        ["Mint functions exposed: " ++ names (named b mintMarkers),
          "No source available to confirm a supply cap"] := by
  by_cases hsource : (b.without gone).source = b.source
  · exact .inl (unlimitedMint_readsCode.sublist (by rw [hsource]))
  cases hgone : gone .sourceCode with
  | false => exact absurd (b.source_of_not_gone hgone) hsource
  | true =>
    have hempty := b.source_of_gone hgone
    rw [hempty] at hsource
    rw [unlimitedMint_readsCode.reads (b.without gone), hempty, unlimitedMint_ofCode_empty]
    rcases b.entries_without gone with h | h
    · rw [h]
      exact .inl (List.nil_sublist _)
    rw [h]
    by_cases hmints : (named (.ofCode b.entries "" : Bundle α) mintMarkers).isEmpty = true
    · rw [if_pos hmints]
      exact .inl (List.nil_sublist _)
    · rw [if_neg hmints]
      exact .inr ⟨rfl, Ne.symm hsource, rfl⟩

/-! ## heuristics over measures -/

section
variable [Scalar α] (gone : BundlePart → Bool)

/-- lines that are given only for what is there are no more when it is erased -/
theorem sublist_left {β : Type} {g : Option β → List String} (hnone : g none = [])
    (p : BundlePart) (x : Option β) : (g (left gone p x)).Sublist (g x) := by
  rcases BundlePart.left_eq gone p x with h | h
  · rw [h, hnone]
    exact List.nil_sublist _
  · rw [h]

theorem line_left (p : BundlePart) (m : Option α) (crosses : α → Bool) (text : String → String) :
    (line (left gone p m) crosses text).Sublist (line m crosses text) :=
  sublist_left gone (g := fun m => line m crosses text) rfl p m

variable (b : Bundle α)

/-- liquidity whose timelock is erased counts as unprotected -/
theorem liquidityDrainRisk_without :
    (liquidityDrainRisk (b.without gone)).Sublist (liquidityDrainRisk b) ∨
      gone .hasTimelock = true ∧ (∃ l, b.liquidity = some l ∧ l.hasTimelock = some true) ∧
        ∃ before after, liquidityDrainRisk (b.without gone) =
            before ++ "Liquidity has no timelock" :: after ∧
          (before ++ after).Sublist (liquidityDrainRisk b) := by
  unfold liquidityDrainRisk
  rcases b.liquidity_without gone with h | h
  · rw [h]
    exact .inl (List.nil_sublist _)
  rw [h]
  cases hl : b.liquidity with
  | none => exact .inl (.refl _)
  | some l =>
    have hlocked : (line (l.without gone).lockedPercentage
        (fun x => decide (x < minLockedLiquidity))
        fun x => "Only " ++ x ++ "% of liquidity is locked").Sublist
        (line l.lockedPercentage (fun x => decide (x < minLockedLiquidity))
          fun x => "Only " ++ x ++ "% of liquidity is locked") := line_left gone _ _ _ _
    have howner : (if (l.without gone).ownerCanRemove = some true then
        ["Owner can remove liquidity"] else []).Sublist
        (if l.ownerCanRemove = some true then ["Owner can remove liquidity"] else []) :=
      sublist_left gone (g := fun x => if x = some true then ["Owner can remove liquidity"] else [])
        rfl .ownerCanRemove l.ownerCanRemove
    dsimp only [Option.map_some]
    by_cases hsame : (l.without gone).hasTimelock = l.hasTimelock
    · rw [hsame]
      exact .inl ((hlocked.append (.refl _)).append howner)
    cases hgone : gone .hasTimelock with
    | false => exact absurd (BundlePart.left_of_not_gone hgone l.hasTimelock) hsame
    | true =>
      have hnone : (l.without gone).hasTimelock = none := BundlePart.left_of_gone hgone l.hasTimelock
      rw [hnone]
      rw [hnone] at hsame
      by_cases htimelock : l.hasTimelock = some true
      · refine .inr ⟨rfl, ⟨l, rfl, htimelock⟩, _, _, List.append_assoc _ _ _, ?_⟩
        rw [if_pos htimelock, List.append_nil]
        exact hlocked.append howner
      · rw [if_neg htimelock]
        exact .inl ((hlocked.append (.refl _)).append howner)

theorem ownershipConcentration_without :
    (ownershipConcentration (b.without gone)).Sublist (ownershipConcentration b) := by
  unfold ownershipConcentration
  rcases b.holders_without gone with h | h
  · rw [h]
    exact List.nil_sublist _
  · rw [h]

theorem fakeTeam_without : (fakeTeam (b.without gone)).Sublist (fakeTeam b) := by
  unfold fakeTeam
  rcases b.team_without gone with h | h
  · rw [h]
    exact List.nil_sublist _
  · rw [h]
    cases b.team with
    | none => exact .refl _
    | some t =>
      refine ((?_ : List.Sublist _ _).append (line_left gone _ _ _ _)).append (line_left gone _ _ _ _)
      rcases BundlePart.left_eq gone .stockPhotosDetected t.stockPhotosDetected with h | h
      · simp only [TeamMetrics.without, h]
        exact List.nil_sublist _
      · simp only [TeamMetrics.without, h]
        exact .refl _

theorem coordinatedPromotion_without :
    (coordinatedPromotion (b.without gone)).Sublist (coordinatedPromotion b) := by
  unfold coordinatedPromotion
  rcases b.socialMetrics_without gone with h | h
  · rw [h]
    exact List.nil_sublist _
  · rw [h]
    cases b.socialMetrics with
    | none => exact .refl _
    | some s =>
      exact ((line_left gone _ _ _ _).append (line_left gone _ _ _ _)).append (line_left gone _ _ _ _)

theorem domainImpersonation_without :
    (domainImpersonation (b.without gone)).Sublist (domainImpersonation b) := by
  unfold domainImpersonation
  rcases b.website_without gone with h | h
  · rw [h]
    exact List.nil_sublist _
  · rw [h]
    cases b.website with
    | none => exact .refl _
    | some w =>
      exact ((line_left gone _ _ _ _).append (line_left gone _ _ _ _)).append (line_left gone _ _ _ _)

/-- **Missing parts add no evidence.** Whatever parts are erased, each heuristic finds what it has found
before or less of it, in the same order. But where a source text is erased, minting counts as unlimited; and
where a timelock is erased, one line says so, and the other lines are among those before. -/
theorem evidence_without {name : String} {h : Bundle α → List String} (hh : (name, h) ∈ all) :
    (h (b.without gone)).Sublist (h b) ∨
      (name = "unlimited_mint" ∧ gone .sourceCode = true ∧ b.source ≠ "" ∧ h (b.without gone) =
        ["Mint functions exposed: " ++ names (named b mintMarkers),
          "No source available to confirm a supply cap"]) ∨
      (name = "liquidity_drain_risk" ∧ gone .hasTimelock = true ∧
        (∃ l, b.liquidity = some l ∧ l.hasTimelock = some true) ∧
        ∃ before after, h (b.without gone) = before ++ "Liquidity has no timelock" :: after ∧
          (before ++ after).Sublist (h b)) := by
  simp only [all, List.mem_cons, List.not_mem_nil, or_false, Prod.mk.injEq] at hh
  rcases hh with ⟨rfl, rfl⟩ | ⟨rfl, rfl⟩ | ⟨rfl, rfl⟩ | ⟨rfl, rfl⟩ | ⟨rfl, rfl⟩ | ⟨rfl, rfl⟩ | ⟨rfl, rfl⟩ |
    ⟨rfl, rfl⟩ | ⟨rfl, rfl⟩ | ⟨rfl, rfl⟩ | ⟨rfl, rfl⟩ | ⟨rfl, rfl⟩ | ⟨rfl, rfl⟩ | ⟨rfl, rfl⟩
  · exact .inl (asymmetricTrading_needsCode.sublist gone b)
  · exact .inl (hiddenFeeManipulation_needsCode.sublist gone b)
  · exact .inl (blacklistFunctions_needsCode.sublist gone b)
  · exact (unlimitedMint_without gone b).imp_right fun hmint => .inl ⟨rfl, hmint⟩
  · exact (liquidityDrainRisk_without gone b).imp_right fun hdrain => .inr ⟨rfl, hdrain⟩
  · exact .inl (ownershipConcentration_without gone b)
  · exact .inl (reentrancy_needsCode.sublist gone b)
  · exact .inl (integerOverflow_needsCode.sublist gone b)
  · exact .inl (unsafeDelegatecall_needsCode.sublist gone b)
  · exact .inl (fakeTeam_without gone b)
  · exact .inl (coordinatedPromotion_without gone b)
  · exact .inl (domainImpersonation_without gone b)
  · exact .inl (priceOracleManipulation_needsCode.sublist gone b)
  · exact .inl (unguardedMint_needsCode.sublist gone b)

end

/-- a contract of whose liquidity a tenth is locked, behind a timelock -/
def timelocked : Bundle Float :=
  ⟨"0xabc", "eth", none, none, none, none, none, some ⟨[], some ⟨some 10, some true, some true⟩⟩, none⟩

/-- without the timelock and the share that is locked, one line is new and another one is missing -/
theorem evidence_without_timelock :
    let gone : BundlePart → Bool := fun p => p = .hasTimelock ∨ p = .lockedPercentage
    ("liquidity_drain_risk", (liquidityDrainRisk : Bundle Float → List String)) ∈ all ∧
      liquidityDrainRisk timelocked =
        ["Only 10% of liquidity is locked", "Owner can remove liquidity"] ∧
      ∃ before after, liquidityDrainRisk (timelocked.without gone) =
          before ++ "Liquidity has no timelock" :: after ∧
        (before ++ after).Sublist (liquidityDrainRisk timelocked) := by
  intro gone
  have hmem : ("liquidity_drain_risk", (liquidityDrainRisk : Bundle Float → List String)) ∈ all :=
    .tail _ (.tail _ (.tail _ (.tail _ (.head _))))
  refine ⟨hmem, by decide +kernel, ?_⟩
  rcases evidence_without gone timelocked hmem with hsublist | ⟨hname, _⟩ | ⟨_, _, _, hnew⟩
  · have hnew : "Liquidity has no timelock" ∈ liquidityDrainRisk (timelocked.without gone) := by
      decide +kernel
    have hnot : "Liquidity has no timelock" ∉ liquidityDrainRisk timelocked := by decide +kernel
    exact absurd (hsublist.subset hnew) hnot
  · exact absurd hname (by decide)
  · exact hnew

end Heuristic

end ContractRisk
