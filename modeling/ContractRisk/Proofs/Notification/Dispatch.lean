import ContractRisk.Notification
import Mathlib.Data.List.Basic

/-!
# What is posted for an event

A webhook posts for an event if it wants the event and can say it in the form of its channel
(`Webhook.post?`). A `Dispatch` is an event with what was posted for it and what came back, and a log of
them is what a row of events leaves behind. `Logged` says that a log is the one of these events and these
webhooks, and of nothing else: for each event one post per webhook that has one, in the order of the
webhooks, each answered by the network as it stood then.

* `notify_logged`      what `notify` does, and that it tells of success exactly if some post was accepted;
* `notifyAll_logged`   the same for events in a row, of which it counts the accepted ones.
-/

namespace ContractRisk

variable {α : Type}

/-! ## posts and their outcomes -/

/-- a post that was sent, and what came back -/
structure Delivery (α : Type) where
  webhook : Webhook α
  post : Post α
  outcome : Outcome

def Delivery.accepted (d : Delivery α) : Bool := d.webhook.channel.accepts d.outcome

/-- an event with what was posted for it -/
structure Dispatch (α : Type) where
  event : Event α
  deliveries : List (Delivery α)

namespace Dispatch

def posts (d : Dispatch α) : List (Post α) := d.deliveries.map (·.post)

/-- did some webhook accept the event? -/
def succeeded (d : Dispatch α) : Bool := d.deliveries.any (·.accepted)

end Dispatch

/-- what came back of each post is the answer of the network after the posts before it -/
def Truthful (net : Network α) : List (Post α) → List (Delivery α) → Prop
  | _, [] => True
  | before, d :: ds => d.outcome = net before d.post ∧ Truthful net (before ++ [d.post]) ds

theorem truthful_append {net : Network α} {before : List (Post α)} {ds ds' : List (Delivery α)} :
    Truthful net before (ds ++ ds') ↔
      Truthful net before ds ∧ Truthful net (before ++ ds.map (·.post)) ds' := by
  induction ds generalizing before with
  | nil => simp [Truthful]
  | cons d ds ih => simp [Truthful, ih, and_assoc]

variable [Scalar α]

/-! ## what is to be posted -/

namespace Webhook

/-- what the webhook posts for an event, if anything -/
def post? (w : Webhook α) (e : Event α) : Option (Post α) :=
  if w.wants e then (w.body e).toOption.map fun body => ⟨w.url, body, w.timeout⟩ else none

/-- all posts for an event, each with its webhook -/
def targets (ws : List (Webhook α)) (e : Event α) : List (Webhook α × Post α) :=
  ws.filterMap fun w => (w.post? e).map (w, ·)

theorem post?_eq_some_iff {w : Webhook α} {e : Event α} {p : Post α} :
    w.post? e = some p ↔ w.enabled = true ∧ e.severity.atLeast w.floor = true ∧
      ∃ body, w.body e = .ok body ∧ p = ⟨w.url, body, w.timeout⟩ := by
  unfold post? wants
  cases w.body e with
  | error f => simp [Except.toOption]
  | ok body => simp [Except.toOption, and_assoc, @eq_comm _ p]

theorem targets_nil (e : Event α) : targets [] e = [] := rfl

theorem targets_cons (w : Webhook α) (ws : List (Webhook α)) (e : Event α) :
    targets (w :: ws) e = ((w.post? e).map (w, ·)).toList ++ targets ws e := by
  unfold targets
  rw [List.filterMap_cons]
  cases (w.post? e).map (w, ·) <;> rfl

theorem targets_eq_nil {ws : List (Webhook α)} {e : Event α} (h : ∀ w ∈ ws, w.wants e = false) :
    targets ws e = [] := by
  refine List.filterMap_eq_nil_iff.mpr fun w hw => ?_
  rw [post?, h w hw]
  rfl

end Webhook

/-! ## logs -/

/-- `log` is what was posted to the webhooks for the events, on the way from the posts `before` to the
posts `after` -/
structure Logged (net : Network α) (ws : List (Webhook α)) (es : List (Event α))
    (before : List (Post α)) (log : List (Dispatch α)) (after : List (Post α)) : Prop where
  events : log.map (·.event) = es
  targets : ∀ d ∈ log, d.deliveries.map (fun x => (x.webhook, x.post)) = Webhook.targets ws d.event
  truthful : Truthful net before (log.flatMap (·.deliveries))
  posts : after = before ++ log.flatMap (·.posts)

namespace Logged

variable {net : Network α} {ws : List (Webhook α)} {es es' : List (Event α)}
  {before between after : List (Post α)} {log log' : List (Dispatch α)}

theorem nil (net : Network α) (ws : List (Webhook α)) (before : List (Post α)) :
    Logged net ws [] before [] before :=
  ⟨rfl, nofun, trivial, (List.append_nil _).symm⟩

theorem append (h : Logged net ws es before log between) (h' : Logged net ws es' between log' after) :
    Logged net ws (es ++ es') before (log ++ log') after where
  events := by rw [List.map_append, h.events, h'.events]
  targets d hd := (List.mem_append.mp hd).elim (h.targets d) (h'.targets d)
  truthful := by
    rw [List.flatMap_append, truthful_append]
    refine ⟨h.truthful, ?_⟩
    rw [List.map_flatMap]
    exact h.posts ▸ h'.truthful
  posts := by rw [h'.posts, h.posts, List.append_assoc, List.flatMap_append]

theorem single {e : Event α} {ds : List (Delivery α)}
    (htargets : ds.map (fun x => (x.webhook, x.post)) = Webhook.targets ws e)
    (htruthful : Truthful net before ds) :
    Logged net ws [e] before [⟨e, ds⟩] (before ++ ds.map (·.post)) where
  events := rfl
  targets d hd := by rw [List.mem_singleton.mp hd, htargets]
  truthful := by rwa [List.flatMap_singleton]
  posts := by rw [List.flatMap_singleton]; rfl

end Logged

/-! ## one webhook -/

namespace Webhook

/-- the delivery of what the webhook posts, if it posts anything -/
def deliveries (w : Webhook α) (net : Network α) (e : Event α) (before : List (Post α)) :
    List (Delivery α) :=
  ((w.post? e).map fun p => ⟨w, p, net before p⟩).toList

theorem deliveries_targets (w : Webhook α) (net : Network α) (e : Event α) (before : List (Post α)) :
    (w.deliveries net e before).map (fun x => (x.webhook, x.post)) =
      ((w.post? e).map (w, ·)).toList := by
  unfold deliveries
  cases w.post? e <;> rfl

theorem deliveries_truthful (w : Webhook α) (net : Network α) (e : Event α)
    (before : List (Post α)) : Truthful net before (w.deliveries net e before) := by
  unfold deliveries
  cases w.post? e with
  | none => exact trivial
  | some p => exact ⟨rfl, trivial⟩

theorem deliver_eq {w : Webhook α} {e : Event α} (h : w.wants e = true) (net : Network α)
    (o : Outbox α) :
    (w.deliver net e o).1 = (w.deliveries net e o.posts).any (·.accepted) ∧
      (w.deliver net e o).2.posts = o.posts ++ (w.deliveries net e o.posts).map (·.post) := by
  unfold deliver deliveries post?
  rw [if_pos h]
  cases w.body e with
  | error f => exact ⟨rfl, (List.append_nil _).symm⟩
  | ok body =>
    have hpost : o.post net ⟨w.url, body, w.timeout⟩ =
        (net o.posts ⟨w.url, body, w.timeout⟩,
          { o with posts := o.posts ++ [⟨w.url, body, w.timeout⟩] }) := rfl
    dsimp only [Except.toOption, Option.map_some, Option.toList_some, List.any_cons, List.any_nil,
      Delivery.accepted]
    rw [hpost, Bool.or_false]
    dsimp only
    cases w.channel.accepts (net o.posts ⟨w.url, body, w.timeout⟩) <;> exact ⟨rfl, rfl⟩

theorem deliveries_of_not_wants {w : Webhook α} {e : Event α} (h : w.wants e = false)
    (net : Network α) (before : List (Post α)) : w.deliveries net e before = [] := by
  rw [deliveries, post?, h]
  rfl

end Webhook

/-! ## all webhooks -/

theorem notify_deliveries (net : Network α) (e : Event α) (ws : List (Webhook α)) (o : Outbox α) :
    ∃ ds : List (Delivery α),
      ds.map (fun x => (x.webhook, x.post)) = Webhook.targets ws e ∧ Truthful net o.posts ds ∧
      (notify net e ws o).1.any (·.2) = ds.any (·.accepted) ∧
      (notify net e ws o).2.posts = o.posts ++ ds.map (·.post) := by
  induction ws generalizing o with
  | nil => exact ⟨[], (Webhook.targets_nil e).symm, trivial, rfl, (List.append_nil _).symm⟩
  | cons w ws ih =>
    rw [Webhook.targets_cons, ← w.deliveries_targets net e o.posts]
    by_cases h : w.wants e = true
    · obtain ⟨hsuccess, hposts⟩ := Webhook.deliver_eq h net o
      obtain ⟨ds, htargets, htruthful, hany, hafter⟩ := ih (w.deliver net e o).2
      rw [hposts] at htruthful hafter
      refine ⟨w.deliveries net e o.posts ++ ds, ?_, ?_, ?_, ?_⟩
      · rw [List.map_append, htargets]
      · exact truthful_append.mpr ⟨w.deliveries_truthful net e o.posts, htruthful⟩
      · rw [notify, if_pos h, List.any_append, ← hsuccess, ← hany]
        rfl
      · rw [notify, if_pos h, List.map_append, ← List.append_assoc]
        exact hafter
    · have hnot : w.wants e = false := Bool.eq_false_iff.mpr h
      rw [Webhook.deliveries_of_not_wants hnot, notify, if_neg h]
      exact ih o

/-- **Notifying of an event.** One post is sent for each webhook that has one for the event, and the
event counts as sent exactly if some post was accepted. -/
theorem notify_logged (net : Network α) (e : Event α) (ws : List (Webhook α)) (o : Outbox α) :
    ∃ d : Dispatch α, Logged net ws [e] o.posts [d] (notify net e ws o).2.posts ∧
      (notify net e ws o).1.any (·.2) = d.succeeded := by
  obtain ⟨ds, htargets, htruthful, hany, hafter⟩ := notify_deliveries net e ws o
  exact ⟨⟨e, ds⟩, hafter ▸ .single htargets htruthful, hany⟩

/-- **Notifying of events in a row.** -/
theorem notifyAll_logged (net : Network α) (ws : List (Webhook α)) (es : List (Event α))
    (o : Outbox α) :
    ∃ log : List (Dispatch α), Logged net ws es o.posts log (notifyAll net ws es o).2.posts ∧
      (notifyAll net ws es o).1 = log.countP (·.succeeded) := by
  induction es generalizing o with
  | nil => exact ⟨[], .nil net ws o.posts, rfl⟩
  | cons e es ih =>
    obtain ⟨d, hd, hany⟩ := notify_logged net e ws o
    obtain ⟨log, hlog, hcount⟩ := ih (notify net e ws o).2
    refine ⟨d :: log, hd.append hlog, ?_⟩
    rw [List.countP_cons, ← hcount, ← hany, Nat.add_comm]
    rfl

end ContractRisk
