import ContractRisk.Proofs.Notification.Dispatch
import Mathlib.Data.List.Forall2

/-!
# Webhooks at other addresses

Two webhooks are `Twin`s if they differ in the address alone. Twins post the same messages, each to its own
address, and what they tell of an event depends on what comes back of the posts, not on the addresses. Two
runs of posting that go on so are `InStep`:

* `notify_inStep`, `notifyAll_inStep`   twins are in step, over networks that may differ as well.
-/

namespace ContractRisk

variable {α : Type}

/-! ## what comes back -/

/-- what a network gives back of posts in a row, call by call -/
def answers (net : Network α) : List (Post α) → List (Post α) → List Outcome
  | _, [] => []
  | before, p :: ps => net before p :: answers net (before ++ [p]) ps

theorem length_answers (net : Network α) (before ps : List (Post α)) :
    (answers net before ps).length = ps.length := by
  induction ps generalizing before with
  | nil => rfl
  | cons p ps ih => rw [answers, List.length_cons, List.length_cons, ih]

theorem answers_const (o : Outcome) (before ps : List (Post α)) :
    answers (fun _ _ => o) before ps = List.replicate ps.length o := by
  induction ps generalizing before with
  | nil => rfl
  | cons p ps ih =>
    rw [answers, ih]
    rfl

theorem answers_append (net : Network α) (before ps qs : List (Post α)) :
    answers net before (ps ++ qs) = answers net before ps ++ answers net (before ++ ps) qs := by
  induction ps generalizing before with
  | nil =>
    rw [List.append_nil]
    rfl
  | cons p ps ih =>
    rw [List.cons_append, answers, ih, List.append_assoc]
    rfl

/-! ## twins -/

/-- the posts differ in the address alone -/
def Post.Twin (p p' : Post α) : Prop := p' = { p with url := p'.url }

/-- the webhooks differ in the address alone -/
def Webhook.Twin (w w' : Webhook α) : Prop := w' = { w with url := w'.url }

namespace Webhook.Twin
variable {w w' : Webhook α}

theorem id_eq (h : w.Twin w') : w'.id = w.id := by
  rw [h]

theorem wants_eq (h : w.Twin w') (e : Event α) : w'.wants e = w.wants e := by
  rw [h]
  rfl

theorem accepts_eq (h : w.Twin w') (o : Outcome) : w'.channel.accepts o = w.channel.accepts o := by
  rw [h]

variable [Scalar α]

theorem body_eq (h : w.Twin w') (e : Event α) : w'.body e = w.body e := by
  rw [h]
  rfl

theorem post? (h : w.Twin w') (e : Event α) :
    (w.post? e = none ∧ w'.post? e = none) ∨
      ∃ p p', w.post? e = some p ∧ w'.post? e = some p' ∧ p.Twin p' := by
  unfold Webhook.post?
  rw [h.wants_eq, h.body_eq]
  split
  · cases w.body e with
    | error f => exact .inl ⟨rfl, rfl⟩
    | ok body =>
      refine .inr ⟨_, _, rfl, rfl, ?_⟩
      rw [h]
      rfl
  · exact .inl ⟨rfl, rfl⟩

end Webhook.Twin

/-! ## runs in step -/

/-- two runs of posting, each with a result: the posts that are added are twins, and if the same comes back
of them call by call, then the results are the same -/
def InStep {β : Type} (net net' : Network α) (before before' after after' : List (Post α))
    (r r' : β) : Prop :=
  ∃ ps ps', after = before ++ ps ∧ after' = before' ++ ps' ∧ List.Forall₂ Post.Twin ps ps' ∧
    (answers net' before' ps' = answers net before ps → r' = r)

section
variable {net net' : Network α} {before before' : List (Post α)}

theorem InStep.refl {β : Type} (r : β) : InStep net net' before before' before before' r r :=
  ⟨[], [], (List.append_nil _).symm, (List.append_nil _).symm, .nil, fun _ => rfl⟩

theorem InStep.trans {β γ δ : Type} {between between' after after' : List (Post α)} {q q' : β}
    {r r' : γ} (h : InStep net net' before before' between between' q q')
    (h' : InStep net net' between between' after after' r r') (f : β → γ → δ) :
    InStep net net' before before' after after' (f q r) (f q' r') := by
  obtain ⟨ps, ps', rfl, rfl, htwins, hresult⟩ := h
  obtain ⟨qs, qs', rfl, rfl, htwins', hresult'⟩ := h'
  refine ⟨ps ++ qs, ps' ++ qs', List.append_assoc .., List.append_assoc .., List.rel_append htwins htwins', ?_⟩
  intro hanswers
  rw [answers_append, answers_append] at hanswers
  -- the calls of both runs are split at the same place
  have hlength : (answers net' before' ps').length = (answers net before ps).length := by
    rw [length_answers, length_answers, htwins.length_eq]
  obtain ⟨hfirst, hrest⟩ := List.append_inj hanswers hlength
  rw [hresult hfirst, hresult' hrest]

variable [Scalar α]

theorem deliver_inStep {w w' : Webhook α} (hw : w.Twin w') {e : Event α} (hwants : w.wants e = true)
    (o o' : Outbox α) :
    InStep net net' o.posts o'.posts (w.deliver net e o).2.posts (w'.deliver net' e o').2.posts
      (w.deliver net e o).1 (w'.deliver net' e o').1 := by
  obtain ⟨hsent, hposts⟩ := Webhook.deliver_eq hwants net o
  obtain ⟨hsent', hposts'⟩ := Webhook.deliver_eq ((hw.wants_eq e).trans hwants) net' o'
  rw [hsent, hposts, hsent', hposts']
  refine ⟨_, _, rfl, rfl, ?_⟩
  unfold Webhook.deliveries
  rcases hw.post? e with ⟨hnone, hnone'⟩ | ⟨p, p', hp, hp', htwin⟩
  · rw [hnone, hnone']
    exact ⟨.nil, fun _ => rfl⟩
  · rw [hp, hp']
    refine ⟨.cons htwin .nil, fun hanswers => ?_⟩
    have houtcome : net' o'.posts p' = net o.posts p := (List.cons.inj hanswers).1
    show (w'.channel.accepts (net' o'.posts p') || false) = (w.channel.accepts (net o.posts p) || false)
    rw [houtcome, hw.accepts_eq]

/-- **Notifying of an event** at other addresses -/
theorem notify_inStep {ws ws' : List (Webhook α)} (hws : List.Forall₂ Webhook.Twin ws ws') (e : Event α)
    (o o' : Outbox α) :
    InStep net net' o.posts o'.posts (notify net e ws o).2.posts (notify net' e ws' o').2.posts
      (notify net e ws o).1 (notify net' e ws' o').1 := by
  induction hws generalizing o o' with
  | nil => exact .refl _
  | @cons w w' ws ws' hw _ ih =>
    unfold notify
    rw [hw.wants_eq]
    by_cases hwants : w.wants e = true
    · rw [if_pos hwants, if_pos hwants, hw.id_eq]
      exact (deliver_inStep hw hwants o o').trans (ih _ _) fun sent rest => (w.id, sent) :: rest
    · rw [if_neg hwants, if_neg hwants]
      exact ih o o'

/-- **Notifying of events in a row** at other addresses -/
theorem notifyAll_inStep {ws ws' : List (Webhook α)} (hws : List.Forall₂ Webhook.Twin ws ws')
    (es : List (Event α)) (o o' : Outbox α) :
    InStep net net' o.posts o'.posts (notifyAll net ws es o).2.posts (notifyAll net' ws' es o').2.posts
      (notifyAll net ws es o).1 (notifyAll net' ws' es o').1 := by
  induction es generalizing o o' with
  | nil => exact .refl _
  | cons e es ih =>
    exact (notify_inStep hws e o o').trans (ih _ _) fun results sent =>
      (if results.any (·.2) then 1 else 0) + sent

end

end ContractRisk
