import ContractRisk.Detector.Bytecode
import Mathlib.Data.List.Sublists

/-!
# Which selectors are found

Code is scanned from the left, and the scan reads on behind each selector that it finds. So the instruction
at a place of the code counts (`IsRead`) if it pushes a selector and no instruction that counts stands so
close before it that the place is one of the digits of its selector. Places are characters, whether they are
even or odd.

* `mem_selectors_iff`   the selectors found are those pushed by the instructions that are read
* `detector_matches`    the templates that the detector names are those all of whose selectors are found; an
  instruction is read for sure if no other one begins among the nine characters before it

`detector_overlooks` has a selector that is pushed at an even place and not found.
-/

namespace ContractRisk.Bytecode

/-! ## places in the code -/

/-- the selector that is pushed at a place of the code -/
def pushedAt? (code : List Char) (p : Nat) : Option (List Char) := pushed? (code.drop p)

/-- the instruction that pushes the selector stands at a place of the code -/
def Pushes (code : List Char) (p : Nat) (selector : String) : Prop :=
  '6' :: '3' :: selector.toList <+: code.drop p

instance (code : List Char) (p : Nat) (selector : String) : Decidable (Pushes code p selector) :=
  inferInstanceAs (Decidable ('6' :: '3' :: selector.toList <+: code.drop p))

/-- Does the instruction at a place count? Not if the place lies within one that counts before it. -/
def IsRead (code : List Char) (p : Nat) : Prop :=
  (pushedAt? code p).isSome = true ∧ ∀ q, q < p → p < q + 10 → ¬ IsRead code q
termination_by p

theorem isRead_iff (code : List Char) (p : Nat) : IsRead code p ↔
    (pushedAt? code p).isSome = true ∧ ∀ q, q < p → p < q + 10 → ¬ IsRead code q := by
  conv_lhs => rw [IsRead]

theorem pushed?_eq_some_iff {cs s : List Char} :
    pushed? cs = some s ↔ '6' :: '3' :: s <+: cs ∧ s.length = 8 ∧ s.all isHexDigit = true := by
  unfold pushed?
  split
  · next r =>
    dsimp only
    rw [Option.ite_none_right_eq_some, Option.some.injEq, Bool.and_eq_true, decide_eq_true_eq]
    constructor
    · rintro ⟨hs, rfl⟩
      exact ⟨List.cons_prefix_cons.mpr ⟨rfl, List.cons_prefix_cons.mpr ⟨rfl, List.take_prefix 8 r⟩⟩, hs⟩
    · rintro ⟨hstart, hlength, hdigits⟩
      have hs : s <+: r := (List.cons_prefix_cons.mp (List.cons_prefix_cons.mp hstart).2).2
      have htake : r.take 8 = s := by
        rw [← hlength]
        exact (List.prefix_iff_eq_take.mp hs).symm
      rw [htake]
      exact ⟨⟨hlength, hdigits⟩, rfl⟩
  · next hother =>
    refine iff_of_false (by simp) ?_
    rintro ⟨⟨t, rfl⟩, _⟩
    exact hother _ rfl

/-! ## the scan -/

theorem selectorsFrom_cons (skip : Nat) (c : Char) (r : List Char) :
    selectorsFrom skip (c :: r) =
      if 0 < skip then selectorsFrom (skip - 1) r
      else match pushed? (c :: r) with
        | some s => s :: selectorsFrom 9 r
        | none => selectorsFrom 0 r := rfl

/-- from place `i` on, the places within an instruction that is read before `i` are the next `skip` ones -/
def Covers (code : List Char) (i skip : Nat) : Prop :=
  ∀ p, i ≤ p → ((∃ q, q < i ∧ p < q + 10 ∧ IsRead code q) ↔ p < i + skip)

section
variable {code : List Char} {i skip : Nat}

theorem covers_start (code : List Char) : Covers code 0 0 := by
  intro p _
  constructor
  · rintro ⟨q, hq, _⟩
    omega
  · intro hp
    omega

theorem Covers.isRead_iff (h : Covers code i skip) :
    IsRead code i ↔ skip = 0 ∧ (pushedAt? code i).isSome = true := by
  have hcovered := h i (Nat.le_refl i)
  rw [Bytecode.isRead_iff]
  constructor
  · rintro ⟨hpushed, hfree⟩
    refine ⟨?_, hpushed⟩
    by_contra hskip
    obtain ⟨q, hq, hreach, hread⟩ := hcovered.mpr (by omega)
    exact hfree q hq hreach hread
  · rintro ⟨rfl, hpushed⟩
    refine ⟨hpushed, fun q hq hreach hread => ?_⟩
    have hlt := hcovered.mp ⟨q, hq, hreach, hread⟩
    omega

/-- behind a place that is not read no more is covered than before -/
theorem Covers.pass (h : Covers code i skip) (hread : ¬ IsRead code i) :
    Covers code (i + 1) (skip - 1) := by
  intro p hp
  have hcovered := h p (by omega)
  constructor
  · rintro ⟨q, hq, hreach, hreadq⟩
    have hne : q ≠ i := fun heq => hread (heq ▸ hreadq)
    have hlt := hcovered.mp ⟨q, by omega, hreach, hreadq⟩
    omega
  · intro hlt
    obtain ⟨q, hq, hrest⟩ := hcovered.mpr (by omega)
    exact ⟨q, by omega, hrest⟩

/-- behind a place that is read the rest of its instruction is covered -/
theorem Covers.read (h : Covers code i 0) (hread : IsRead code i) : Covers code (i + 1) 9 := by
  intro p hp
  have hcovered := h p (by omega)
  constructor
  · rintro ⟨q, hq, hreach, hreadq⟩
    by_cases hqi : q = i
    · omega
    · have hlt := hcovered.mp ⟨q, by omega, hreach, hreadq⟩
      omega
  · intro hlt
    exact ⟨i, by omega, by omega, hread⟩

theorem exists_place_iff (P : Nat → Prop) (i : Nat) :
    (∃ p, i ≤ p ∧ P p) ↔ P i ∨ ∃ p, i + 1 ≤ p ∧ P p := by
  constructor
  · rintro ⟨p, hp, hP⟩
    rcases Nat.eq_or_lt_of_le hp with rfl | hlt
    · exact .inl hP
    · exact .inr ⟨p, hlt, hP⟩
  · rintro (hP | ⟨p, hp, hP⟩)
    · exact ⟨i, Nat.le_refl i, hP⟩
    · exact ⟨p, by omega, hP⟩

/-- what the scan finds from a place on, by induction on the rest of the code -/
theorem mem_selectorsFrom_drop (h : Covers code i skip) (s : List Char) :
    s ∈ selectorsFrom skip (code.drop i) ↔
      ∃ p, i ≤ p ∧ IsRead code p ∧ pushedAt? code p = some s := by
  generalize hrest : code.drop i = cs
  induction cs generalizing i skip with
  | nil =>
    refine iff_of_false List.not_mem_nil ?_
    rintro ⟨p, hp, _, hpushed⟩
    have hnil : code.drop p = [] :=
      List.drop_eq_nil_of_le (Nat.le_trans (List.drop_eq_nil_iff.mp hrest) hp)
    unfold pushedAt? at hpushed
    rw [hnil] at hpushed
    exact nomatch hpushed
  | cons c r ih =>
    have hnext : code.drop (i + 1) = r := by
      rw [← List.drop_drop, hrest]
      rfl
    have hat : pushedAt? code i = pushed? (c :: r) := congrArg pushed? hrest
    rw [exists_place_iff]
    by_cases hread : IsRead code i
    · obtain ⟨rfl, hpushed⟩ := h.isRead_iff.mp hread
      obtain ⟨t, ht⟩ := Option.isSome_iff_exists.mp hpushed
      have hscan : selectorsFrom 0 (c :: r) = t :: selectorsFrom 9 r := by
        rw [selectorsFrom_cons, if_neg (Nat.lt_irrefl 0), ← hat, ht]
      rw [hscan, List.mem_cons, ih (h.read hread) hnext, ht, Option.some.injEq, eq_comm (a := t)]
      exact or_congr_left (and_iff_right hread).symm
    · have hscan : selectorsFrom skip (c :: r) = selectorsFrom (skip - 1) r := by
        rw [selectorsFrom_cons]
        by_cases hskip : 0 < skip
        · rw [if_pos hskip]
        · have hzero : skip = 0 := by omega
          have hnone : pushed? (c :: r) = none := by
            rw [← hat, ← Option.not_isSome_iff_eq_none]
            exact fun hpushed => hread (h.isRead_iff.mpr ⟨hzero, hpushed⟩)
          rw [if_neg hskip, hnone, hzero]
      rw [hscan, ih (h.pass hread) hnext]
      exact (or_iff_right fun hi => hread hi.1).symm

end

/-- **The selectors found** are those pushed by the instructions that are read. -/
theorem mem_selectors_iff (code selector : String) : selector ∈ selectors code ↔
    ∃ p, IsRead code.toList p ∧ pushedAt? code.toList p = some selector.toList := by
  have hscan := mem_selectorsFrom_drop (covers_start code.toList) selector.toList
  simp only [List.drop_zero, Nat.zero_le, true_and] at hscan
  unfold selectors
  rw [List.mem_eraseDups, ← hscan, List.mem_map]
  constructor
  · rintro ⟨s, hs, rfl⟩
    rwa [String.toList_ofList]
  · exact fun hs => ⟨_, hs, String.ofList_toList⟩

/-! ## the templates named -/

theorem pushes_iff {selector : String} (hlength : selector.toList.length = 8)
    (hdigits : selector.toList.all isHexDigit = true) (code : List Char) (p : Nat) :
    Pushes code p selector ↔ pushedAt? code p = some selector.toList := by
  unfold pushedAt? Pushes
  rw [pushed?_eq_some_iff]
  exact (and_iff_left ⟨hlength, hdigits⟩).symm

theorem required_selectors : ∀ f ∈ (fingerprints : List (Fingerprint Float)), ∀ t ∈ f.required,
    t.toList.length = 8 ∧ t.toList.all isHexDigit = true := by
  decide +kernel

theorem isIn_selectors_iff {f : Fingerprint Float} (hf : f ∈ fingerprints) (code : String) :
    f.isIn (selectors code) = true ↔
      ∀ t ∈ f.required, ∃ p, IsRead code.toList p ∧ Pushes code.toList p t := by
  unfold Fingerprint.isIn
  rw [List.all_eq_true]
  refine forall₂_congr fun t ht => ?_
  obtain ⟨hlength, hdigits⟩ := required_selectors f hf t ht
  rw [List.contains_iff_mem, mem_selectors_iff]
  simp only [pushes_iff hlength hdigits]

/-- the templates that a signal names -/
def listed {α : Type} (s : Signal α) : List Value :=
  match s.metadata.lookup "matches" with
  | some (.list names) => names
  | _ => []

theorem mem_listed_similaritySignal {code d name : String} :
    .text name ∈ listed (similaritySignal code d : Signal Float) ↔
      ∃ f ∈ (fingerprints : List (Fingerprint Float)), f.name = name ∧
        ∀ t ∈ f.required, ∃ p, IsRead code.toList p ∧ Pushes code.toList p t := by
  have hlisted : listed (similaritySignal code d : Signal Float) =
      (fingerprints.filter fun f : Fingerprint Float => f.isIn (selectors code)).map
        fun f => .text f.name := rfl
  rw [hlisted, List.mem_map]
  constructor
  · rintro ⟨f, hf, hname⟩
    obtain ⟨hmem, hin⟩ := List.mem_filter.mp hf
    exact ⟨f, hmem, Value.text.inj hname, (isIn_selectors_iff hmem code).mp hin⟩
  · rintro ⟨f, hmem, rfl, hin⟩
    exact ⟨f, List.mem_filter.mpr ⟨hmem, (isIn_selectors_iff hmem code).mpr hin⟩, rfl⟩

theorem confidence_isUnit : ∀ fs ∈ (fingerprints : List (Fingerprint Float)).sublists,
    isUnit (confidence fs) = true := by
  decide +kernel

theorem exactConfidence_isUnit : isUnit (exactConfidence : Float) = true := by decide +kernel

theorem signal_isUnit (known : List String) (b : Bundle Float) :
    isUnit (signal known b).confidence = true := by
  refine signal_induction (P := fun s => isUnit s.confidence = true) (fun d => ?_) (fun code d => ?_)
    known b
  · exact exactConfidence_isUnit
  · have hmatched : fingerprints.filter (fun f : Fingerprint Float => f.isIn (selectors code)) ∈
        fingerprints.sublists := List.mem_sublists.mpr List.filter_sublist
    exact confidence_isUnit _ hmatched

/-- the detector always replies with a signal -/
theorem analyze_eq {σ : Type} (known : List String) (b : Bundle Float) (state : σ) :
    (detector known).analyze b state = (.signal (signal known b), state) :=
  congrArg (·, state) (if_pos (signal_isUnit known b))

/-- **Which templates are named.** For every code the detector replies with a signal. If the digest of the
code is known, it says so; if not, the signal names the templates all of whose selectors are pushed by
instructions that are read. An instruction is read, at an even place or at an odd one, if no other one
begins among the nine characters before it. -/
theorem detector_matches {σ : Type} (known : List String) (b : Bundle Float) (state : σ) :
    let code := normalize (b.bytecode.getD "")
    ∃ s : Signal Float, (detector known).analyze b state = (.signal s, state) ∧
      (digest code ∈ known.map Text.lower → s = exactSignal (digest code)) ∧
      (digest code ∉ known.map Text.lower → ∀ name, .text name ∈ listed s ↔
        ∃ f ∈ (fingerprints : List (Fingerprint Float)), f.name = name ∧
          ∀ t ∈ f.required, ∃ p, IsRead code.toList p ∧ Pushes code.toList p t) ∧
      ∀ f ∈ (fingerprints : List (Fingerprint Float)),
        (∀ t ∈ f.required, ∃ p, Pushes code.toList p t ∧
          ∀ q, q < p → p < q + 10 → pushedAt? code.toList q = none) →
        s = exactSignal (digest code) ∨ .text f.name ∈ listed s := by
  intro code
  have hexact : digest code ∈ known.map Text.lower → signal known b = exactSignal (digest code) :=
    fun h => if_pos (List.contains_iff_mem.mpr h)
  have hsimilar : digest code ∉ known.map Text.lower →
      signal known b = similaritySignal code (digest code) :=
    fun h => if_neg (mt List.contains_iff_mem.mp h)
  refine ⟨signal known b, analyze_eq known b state, hexact, fun h name => ?_, fun f hf hfree => ?_⟩
  · rw [hsimilar h]
    exact mem_listed_similaritySignal
  · by_cases h : digest code ∈ known.map Text.lower
    · exact .inl (hexact h)
    · rw [hsimilar h]
      refine .inr (mem_listed_similaritySignal.mpr ⟨f, hf, rfl, fun t ht => ?_⟩)
      obtain ⟨p, hpush, hnone⟩ := hfree t ht
      obtain ⟨hlength, hdigits⟩ := required_selectors f hf t ht
      have hpushed := (pushes_iff hlength hdigits _ p).mp hpush
      have hthere := Option.isSome_of_eq_some hpushed
      refine ⟨p, (isRead_iff _ p).mpr ⟨hthere, fun q hq hreach hread => ?_⟩, hpush⟩
      have hsome := ((isRead_iff _ q).mp hread).1
      rw [hnone q hq hreach] at hsome
      exact nomatch hsome

/-- a bundle of nothing but code -/
def coded (code : String) : Bundle Float := ⟨"0xabc", "eth", some code, none, none, none, none, none, none⟩

/-- The byte 63 is pushed first and looks like the instruction. Its ten digits reach into the selector that
is pushed behind it at an even place, which is all that a template requires, and is not found. -/
theorem detector_overlooks :
    let b := coded "0x606363a0712d68"
    let code := normalize (b.bytecode.getD "")
    (⟨"open_mint", ["a0712d68"], 0.60⟩ : Fingerprint Float) ∈ fingerprints ∧
      (∃ p, p % 2 = 0 ∧ Pushes code.toList p "a0712d68") ∧
      ∃ s : Signal Float, (detector []).analyze b () = (.signal s, ()) ∧
        s ≠ exactSignal (digest code) ∧ .text "open_mint" ∉ listed s := by
  intro b code
  refine ⟨.tail _ (.tail _ (.head _)), ⟨4, rfl, by decide +kernel⟩, signal [] b, analyze_eq [] b (),
    fun hexact => ?_, ?_⟩
  · have hseverity : (signal [] b).severity = none := rfl
    rw [hexact] at hseverity
    exact nomatch hseverity
  · have hnone : (listed (signal [] b)).isEmpty = true := by decide +kernel
    rw [List.isEmpty_iff.mp hnone]
    exact List.not_mem_nil

end ContractRisk.Bytecode
