import ContractRisk.Proofs.Detector.Senders
import ContractRisk.Proofs.Number.Half
import ContractRisk.Proofs.Text.AsciiCase

/-!
# Transactions in any order

The detector of transaction patterns counts, so that neither the order of the transactions nor the case of
letters in their senders and methods should matter (`Shuffled`). Two of its values are not counts, the most
frequent sender and the line that names it:

* `top?_perm`            in every order there is a most frequent sender, or in none;
* `senderEvidence_perm`  the line is the same, although the choice among equally frequent senders is not, where
                         only a sender with a majority can be named (`KeepsMajorities`, as on doubles);
* `majority_of_named`    who is named has sent more than half of the transactions;
* `detector_shuffled`    **shuffled transactions have the same signal**.
-/

namespace ContractRisk.Trading

variable {α : Type}

/-! ## shuffled transactions -/

/-- transactions that differ in the case of ASCII letters in sender and method, and in what is not read -/
structure Recased (t t' : TransactionRecord α) : Prop where
  sender : Text.SameLetters t.fromAddress t'.fromAddress
  method : Text.SameLetters t.method t'.method
  success : t.success = t'.success

/-- the transactions in another order, recased -/
def Shuffled (ts ts' : List (TransactionRecord α)) : Prop :=
  ∃ mid, ts.Perm mid ∧ List.Forall₂ Recased mid ts'

section
variable {ts ts' : List (TransactionRecord α)}

theorem Shuffled.length_eq (h : Shuffled ts ts') : ts.length = ts'.length := by
  obtain ⟨mid, hp, hr⟩ := h
  rw [hp.length_eq, hr.length_eq]

theorem Recased.isSell_eq {t t' : TransactionRecord α} (h : Recased t t') : isSell t = isSell t' := by
  unfold isSell
  rw [Text.lower_eq_of_sameLetters h.method]

theorem senders_recased (h : List.Forall₂ Recased ts ts') : senders ts = senders ts' := by
  unfold senders
  induction h with
  | nil => rfl
  | cons hr _ ih =>
    rw [List.filterMap_cons, List.filterMap_cons, hr.sender.isEmpty_eq,
      Text.lower_eq_of_sameLetters hr.sender, ih]

theorem Shuffled.senders_perm (h : Shuffled ts ts') : (senders ts).Perm (senders ts') := by
  obtain ⟨mid, hp, hr⟩ := h
  rw [← senders_recased hr]
  exact hp.filterMap _

theorem sells_recased (h : List.Forall₂ Recased ts ts') : sells ts = sells ts' := by
  have hlengths : List.Forall₂ Recased (ts.filter isSell) (ts'.filter isSell) :=
    List.rel_filter (fun _ _ hr => iff_of_eq (congrArg (· = true) hr.isSell_eq)) h
  have hfailed : List.Forall₂ Recased ((ts.filter isSell).filter (!·.success))
      ((ts'.filter isSell).filter (!·.success)) :=
    List.rel_filter (fun _ _ hr => iff_of_eq (congrArg (fun b => (!b) = true) hr.success)) hlengths
  unfold sells
  dsimp only
  rw [hlengths.length_eq, hfailed.length_eq]

theorem sells_perm (h : ts.Perm ts') : sells ts = sells ts' := by
  have hsells := h.filter isSell
  unfold sells
  dsimp only
  rw [hsells.length_eq, (hsells.filter (!·.success)).length_eq]

theorem Shuffled.sells_eq (h : Shuffled ts ts') : sells ts = sells ts' := by
  obtain ⟨mid, hp, hr⟩ := h
  rw [sells_perm hp, sells_recased hr]

end

/-! ## the most frequent sender -/

section
variable {ss ss' : List String}

theorem top?_perm (hp : ss.Perm ss') :
    (top? (counts ss) = none ∧ top? (counts ss') = none) ∨
      ∃ t t', top? (counts ss) = some t ∧ top? (counts ss') = some t' ∧ IsTop ss t ∧ IsTop ss' t' := by
  rcases top?_counts ss with ⟨hnone, rfl⟩ | ⟨t, ht, htop⟩
  · obtain rfl := hp.nil_eq
    exact .inl ⟨hnone, hnone⟩
  · rcases top?_counts ss' with ⟨_, rfl⟩ | ⟨t', ht', htop'⟩
    · obtain rfl := hp.eq_nil
      exact nomatch htop.mem
    · exact .inr ⟨t, t', ht, ht', htop, htop'⟩

-- the choice itself is not the same
example : top? (counts ["0xa", "0xb"]) = some ("0xa", 1) ∧ top? (counts ["0xb", "0xa"]) = some ("0xb", 1) := by
  decide

theorem dominance_perm [Scalar α] (hp : ss.Perm ss') (total : ℕ) :
    (dominance (top? (counts ss)) total : α) = dominance (top? (counts ss')) total := by
  rcases top?_perm hp with ⟨hnone, hnone'⟩ | ⟨t, t', ht, ht', htop, htop'⟩
  · rw [hnone, hnone']
  · rw [ht, ht']
    show ratio t.2 total = ratio t'.2 total
    rw [htop.count_eq htop' hp]

/-- a share is computed to exceed a half only where it is that of a majority -/
def KeepsMajorities (α : Type) [Scalar α] : Prop :=
  ∀ part whole : ℕ, (0.5 : α) < ratio part whole → whole < 2 * part

theorem senderEvidence_perm [Scalar α] (hmost : KeepsMajorities α) (hp : ss.Perm ss') {total : ℕ}
    (hlen : ss.length ≤ total) :
    senderEvidence (top? (counts ss)) (dominance (top? (counts ss)) total : α) =
      senderEvidence (top? (counts ss')) (dominance (top? (counts ss')) total : α) := by
  rw [← dominance_perm hp total]
  rcases top?_perm hp with ⟨hnone, hnone'⟩ | ⟨t, t', ht, ht', htop, htop'⟩
  · rw [hnone, hnone']
  · rw [ht, ht']
    by_cases hnamed : (0.5 : α) < dominance (some t) total
    · -- a sender with a majority has no equal
      have hlt : total < 2 * t.2 := hmost t.2 total hnamed
      obtain rfl := htop.majority htop' hp (hlen.trans_lt hlt)
      rfl
    · unfold senderEvidence
      dsimp only
      rw [if_neg hnamed, if_neg hnamed]

end

/-! ## the detector -/

theorem signal_shuffled [Scalar α] (hmost : KeepsMajorities α) {b b' : Bundle α}
    (h : Shuffled (b.transactions.getD []) (b'.transactions.getD [])) : signal b = signal b' := by
  have hlen := (length_senders_le (b.transactions.getD [])).trans h.length_eq.le
  unfold signal
  dsimp only
  rw [h.length_eq, h.sells_eq, senderEvidence_perm hmost h.senders_perm hlen,
    dominance_perm h.senders_perm]

theorem keepsMajorities_float : KeepsMajorities Float := by
  intro part whole hlt
  by_contra hle
  exact Double.not_half_lt_ratio (not_lt.mp hle) hlt

/-- who is named has sent more than half of the transactions -/
theorem majority_of_named [Scalar α] (hmost : KeepsMajorities α) {ss : List String} {total : ℕ}
    {t : String × ℕ} (ht : top? (counts ss) = some t)
    (hnamed : senderEvidence (some t) (dominance (some t) total : α) ≠ []) : total < 2 * ss.count t.1 := by
  have hshare : (0.5 : α) < dominance (some t) total := by
    by_contra hnot
    exact hnamed (if_neg hnot)
  rcases top?_counts ss with ⟨hnone, _⟩ | ⟨t', ht', htop⟩
  · exact nomatch ht.symm.trans hnone
  · obtain rfl : t = t' := Option.some.inj (ht.symm.trans ht')
    rw [← htop.count]
    exact hmost t.2 total hshare

/-- **Order and letter case do not matter.** Shuffled transactions are answered in the same way, and by the same
signal: confidence, lines of evidence and metadata. A sender that a line names has sent more than half of all. -/
theorem detector_shuffled {σ : Type} {b b' : Bundle Float}
    (h : Shuffled (b.transactions.getD []) (b'.transactions.getD [])) :
    (detector : Detector Float σ).applies b' = (detector : Detector Float σ).applies b ∧
      (∀ state : σ, detector.analyze b' state = detector.analyze b state) ∧
      ∀ t, top? (counts (senders (b.transactions.getD []))) = some t →
        senderEvidence (some t) (dominance (some t) (b.transactions.getD []).length : Float) ≠ [] →
        (b.transactions.getD []).length < 2 * (senders (b.transactions.getD [])).count t.1 := by
  refine ⟨?_, ?_, fun t ht hnamed => majority_of_named keepsMajorities_float ht hnamed⟩
  · show Except.ok (applies b') = .ok (applies b)
    unfold applies
    rw [h.length_eq]
  · intro state
    show (Reply.ofSignal (signal b'), state) = (.ofSignal (signal b), state)
    rw [signal_shuffled keepsMajorities_float h]

/-- a bundle of nothing but transactions, each with sender, method and success -/
def tradesOnly (ts : List (String × String × Bool)) : Bundle Float :=
  ⟨"0x1", "ethereum", none, none, none, none,
    some (ts.map fun (sender, method, success) => ⟨"0x0", sender, "0xabc", 0, method, success⟩), none, none⟩

def whaleTrades : Bundle Float :=
  tradesOnly [("0xWhale", "buy", true), ("0x2", "Sell", false), ("", "buy", true), ("0xwhale", "buy", true),
    ("0xWHALE", "swapExactTokensForETH", true)]

def whaleShuffled : Bundle Float :=
  tradesOnly [("0xwhale", "swapexacttokensforeth", true), ("0xwhaLE", "BUY", true), ("", "Buy", true),
    ("0x2", "sell", false), ("0XWHALE", "buy", true)]

theorem whale_shuffled : Shuffled (whaleTrades.transactions.getD []) (whaleShuffled.transactions.getD []) := by
  refine ⟨_, (List.reverse_perm _).symm, ?_⟩
  repeat refine .cons ⟨by decide, by decide, rfl⟩ ?_
  exact .nil

theorem detector_shuffled_whale :
    (signal whaleTrades).evidence =
        [.text "1 of 2 sell attempts reverted", .text "0xwhale sent 60% of transactions"] ∧
      ∀ state : Unit, (detector : Detector Float Unit).analyze whaleShuffled state =
        detector.analyze whaleTrades state :=
  ⟨by rfl, (detector_shuffled whale_shuffled).2.1⟩

end ContractRisk.Trading
