import ContractRisk.Proofs.Scan.Course

/-!
# Screening one pattern at a time

All patterns of a screening share one view, which keeps the text of the bundle once it is made. This is a
matter of speed alone: a screening is what the evaluations of the patterns come to, each taken on its own
in a view of its own, also if there is no text.

* `foldl_screenOne_eq`    a shared view, new or used, gives the evaluations of fresh ones;
* `screen_append`         patterns in a row may be screened part by part;
* `screen_marked`         and any choice of them gives the evaluations at the chosen places;
* `screen_patternwise`    all of this together.
-/

namespace ContractRisk

variable {α : Type}

/-! ## evaluations in a row -/

/-- a pattern with what its condition comes to -/
abbrev Evaluation (α : Type) := Pattern α × Except Fault Evidence

namespace Screening

def match? (x : Evaluation α) : Option (PatternMatch α) :=
  match x.2 with
  | .ok (some evidence) => some ⟨x.1, evidence⟩
  | _ => none

def fault? (x : Evaluation α) : Option (Pattern α × Fault) :=
  match x.2 with
  | .error f => some (x.1, f)
  | _ => none

/-- the matches and the faults among evaluations, in order -/
def ofEvaluations (xs : List (Evaluation α)) : Screening α :=
  ⟨xs.filterMap match?, xs.filterMap fault?⟩

/-- one screening after the other -/
instance : Append (Screening α) := ⟨fun s t => ⟨s.found ++ t.found, s.skipped ++ t.skipped⟩⟩

theorem ofEvaluations_append (xs ys : List (Evaluation α)) :
    ofEvaluations (xs ++ ys) = ofEvaluations xs ++ ofEvaluations ys := by
  show Screening.mk _ _ = Screening.mk _ _
  rw [List.filterMap_append, List.filterMap_append]
  rfl

end Screening

/-! ## chosen places -/

/-- the entries at the marked places of a list -/
def marked {β : Type} : List Bool → List β → List β
  | true :: marks, x :: xs => x :: marked marks xs
  | false :: marks, _ :: xs => marked marks xs
  | _, _ => []

theorem map_marked {β γ : Type} (f : β → γ) (marks : List Bool) (xs : List β) :
    (marked marks xs).map f = marked marks (xs.map f) := by
  induction xs generalizing marks with
  | nil => rcases marks with _ | ⟨_ | _, marks⟩ <;> rfl
  | cons x xs ih =>
    rcases marks with _ | ⟨_ | _, marks⟩
    · rfl
    · exact ih marks
    · exact congrArg (f x :: ·) (ih marks)

/-- a sublist is made of the entries at some places -/
theorem exists_marked {β : Type} {ys xs : List β} (h : ys.Sublist xs) :
    ∃ marks, marks.length = xs.length ∧ ys = marked marks xs := by
  induction h with
  | slnil => exact ⟨[], rfl, rfl⟩
  | cons x _ ih =>
    obtain ⟨marks, hlength, rfl⟩ := ih
    exact ⟨false :: marks, congrArg (· + 1) hlength, rfl⟩
  | cons_cons x _ ih =>
    obtain ⟨marks, hlength, rfl⟩ := ih
    exact ⟨true :: marks, congrArg (· + 1) hlength, rfl⟩

/-! ## views in use -/

variable [Scalar α]

/-- the view of a bundle after conditions have been evaluated in it -/
def View.after (b : Bundle α) (cs : List (Condition α)) : View α :=
  cs.foldl (fun v c => (c.evidence v).2) (View.of b)

theorem View.Faithful.after (b : Bundle α) (cs : List (Condition α)) : (View.after b cs).Faithful b := by
  have hfold : ∀ v : View α, v.Faithful b → (cs.foldl (fun v c => (c.evidence v).2) v).Faithful b := by
    induction cs with
    | nil => exact fun v hv => hv
    | cons c cs ih => exact fun v hv => ih _ (Condition.evidence_of_faithful hv c).2
  exact hfold _ (.of_bundle b)

/-- without a text, the conditions on the text break, and a predicate is what it is anyway -/
theorem Condition.evidenceIn_of_no_text {b : Bundle α} {f : DocumentFault} (h : b.view = .error f)
    (c : Condition α) : c.evidenceIn b = match c with
      | .predicate p => p.evidence b
      | _ => .error (.noText f) := by
  have hfresh := View.Faithful.of_bundle b
  cases c with
  | contains t =>
    show (View.of b).lowered.1.map _ = _
    rw [hfresh.lowered_eq.1, h]
    rfl
  | structured r =>
    show (View.of b).text.1.map _ = _
    rw [hfresh.text_eq.1, h]
    rfl
  | predicate p => rfl

/-! ## screenings -/

/-- the pattern with what its condition comes to in a view of its own -/
def Pattern.evaluation (b : Bundle α) (p : Pattern α) : Evaluation α := (p, p.condition.evidenceIn b)

/-- which view is shared makes no difference -/
theorem foldl_screenOne_eq {b : Bundle α} {v : View α} (hv : v.Faithful b) (ps : List (Pattern α)) :
    (ps.foldl screenOne (.empty, v)).1 = .ofEvaluations (ps.map (Pattern.evaluation b)) := by
  have hstart : ((Screening.empty, v) : Screening α × View α).2.Faithful b := hv
  obtain ⟨hfound, hskipped⟩ := foldl_screenOne ps hstart
  have hmatches : (ps.map (Pattern.evaluation b)).filterMap Screening.match? =
      ps.filterMap (Pattern.match? b) := List.filterMap_map
  have hfaults : (ps.map (Pattern.evaluation b)).filterMap Screening.fault? =
      ps.filterMap (Pattern.fault? b) := List.filterMap_map
  show Screening.mk _ _ = Screening.mk _ _
  rw [hfound, hskipped, hmatches, hfaults]
  rfl

theorem screen_eq (ps : List (Pattern α)) (b : Bundle α) :
    screen ps b = .ofEvaluations (ps.map (Pattern.evaluation b)) :=
  foldl_screenOne_eq (.of_bundle b) ps

theorem screen_append (ps qs : List (Pattern α)) (b : Bundle α) :
    screen (ps ++ qs) b = screen ps b ++ screen qs b := by
  rw [screen_eq, screen_eq, screen_eq, List.map_append, Screening.ofEvaluations_append]

theorem screen_marked (marks : List Bool) (ps : List (Pattern α)) (b : Bundle α) :
    screen (marked marks ps) b = .ofEvaluations (marked marks (ps.map (Pattern.evaluation b))) := by
  rw [screen_eq, map_marked]

/-- **A shared view is as good as fresh ones.** A screening is what the evaluations of the patterns come
to, each in a view of its own, whatever the view that they share has been used for before. Hence patterns
in a row are screened part by part, and a sublist has the evaluations at its places. If the bundle has no
text, the conditions on the text break, all alike, and the predicates stay what they are. -/
theorem screen_patternwise (b : Bundle α) :
    (∀ ps, screen ps b = .ofEvaluations (ps.map (Pattern.evaluation b))) ∧
    (∀ used ps, (ps.foldl screenOne (.empty, View.after b used)).1 = screen ps b) ∧
    (∀ ps qs, screen (ps ++ qs) b = screen ps b ++ screen qs b) ∧
    (∀ ps qs, qs.Sublist ps → ∃ marks, marks.length = ps.length ∧ qs = marked marks ps ∧
      screen qs b = .ofEvaluations (marked marks (ps.map (Pattern.evaluation b)))) ∧
    (∀ f, b.view = .error f → ∀ c : Condition α, c.evidenceIn b = match c with
      | .predicate p => p.evidence b
      | _ => .error (.noText f)) := by
  refine ⟨fun ps => screen_eq ps b, fun used ps => ?_, fun ps qs => screen_append ps qs b, ?_, ?_⟩
  · rw [foldl_screenOne_eq (.after b used), screen_eq]
  · intro ps qs h
    obtain ⟨marks, hlength, rfl⟩ := exists_marked h
    exact ⟨marks, hlength, rfl, screen_marked marks ps b⟩
  · exact fun f hf => Condition.evidenceIn_of_no_text hf

namespace Sample

/-- data in so many lists -/
def nested : Nat → Value
  | 0 => .null
  | n + 1 => .list [nested n]

/-- a bundle whose metadata are nested too deeply for a text -/
def deepBundle : Bundle Float := { bundle with metadata := some [("k", nested 255)] }

/-- a pattern that looks for its identifier in the text -/
def textPattern (id : String) : Pattern Float :=
  { (pattern id .low fun _ => .ok (.holds true) : Pattern Float) with condition := .contains id }

/-- a pattern that sees something in every bundle -/
def seeing : Pattern Float := pattern "B" .high fun _ => .ok (.lines ["seen"])

end Sample

open Sample in
set_option maxRecDepth 10000 in
/-- a check between two searches in a text that is not there: the searches break and the check holds,
also when the first search is left out -/
theorem screen_patternwise_textless :
    let all := [textPattern "A", seeing, textPattern "C"]
    let part := [seeing, textPattern "C"]
    deepBundle.view = .error .tooDeep ∧ part.Sublist all ∧
      all.map (fun p => p.condition.evidenceIn deepBundle) =
        [.error (.noText .tooDeep), .ok (some ["seen"]), .error (.noText .tooDeep)] ∧
      (∃ marks, marks.length = 3 ∧ part = marked marks all ∧ screen part deepBundle =
        .ofEvaluations (marked marks (all.map (Pattern.evaluation deepBundle)))) ∧
      (screen part deepBundle).skippedIds = ["C"] := by
  intro all part
  obtain ⟨hscreen, -, -, hsublist, hbreaks⟩ := screen_patternwise deepBundle
  have htext : deepBundle.view = .error .tooDeep := by
    have hfault : (match deepBundle.view with
      | .error f => some f
      | .ok _ => none) = some .tooDeep := by decide +kernel
    cases hview : deepBundle.view with
    | error f =>
      rw [hview] at hfault
      rw [Option.some.inj hfault]
    | ok t =>
      rw [hview] at hfault
      exact nomatch hfault
  have hpart : part.Sublist all := List.sublist_cons_self ..
  have hcondition (id : String) :
      (textPattern id).condition.evidenceIn deepBundle = .error (.noText .tooDeep) :=
    hbreaks .tooDeep htext (.contains id)
  have hseeing : seeing.condition.evidenceIn deepBundle = .ok (some ["seen"]) := rfl
  refine ⟨htext, hpart, ?_, hsublist all part hpart, ?_⟩
  · simp only [all, List.map_cons, List.map_nil, hcondition, hseeing]
  · rw [hscreen]
    show (Screening.ofEvaluations [Pattern.evaluation deepBundle seeing,
      (textPattern "C", (textPattern "C").condition.evidenceIn deepBundle)]).skippedIds = _
    rw [hcondition]
    rfl

end ContractRisk
