import ContractRisk.Proofs.Bus.Queue
import ContractRisk.Proofs.Notification.Dispatch
import ContractRisk.Proofs.Number.Fraction

/-!
# A relay at work

`Relay.flush` is one call with nothing in between. Here events are also published while a call waits for
the network: a `Desk` is a relay with the call that is open on it, and `Step` is whatever may happen next:
an event is published, a call takes what waits in the queue, it notifies of the next of these events, it
returns. The next call comes after the return of the one before. What is published reaches the queue of
the relay as `Bus.hear`, whatever else is on the bus.

* `Run.kept`            nothing is lost, added or put out of order between queue, call and network, and the
  relay counts what its calls returned;
* `Run.within_call`     what an open call has done so far;
* `Run.forwards_once`   both together: each call notifies of exactly the events that were accepted since
  the call before;
* `flush_run`           a call that nothing interrupts is `Relay.flush`.
-/

namespace ContractRisk

variable {α : Type}

/-! ## what happens -/

/-- a relay and the posts so far. A call that is open holds the events that it has still to notify of and
the number of those that some webhook accepted. -/
structure Desk (α : Type) where
  relay : Relay α
  outbox : Outbox α
  call : Option (List (Event α) × Nat)

inductive Happening (α : Type) where
  /-- an event is published; did the queue accept it? -/
  | published (e : Event α) (accepted : Bool)
  | called
  | notified (e : Event α)
  | returned (sent : Nat)

namespace Happening

def accepted? : Happening α → Option (Event α)
  | published e true => some e
  | _ => none

def notified? : Happening α → Option (Event α)
  | notified e => some e
  | _ => none

def returned? : Happening α → Option Nat
  | returned sent => some sent
  | _ => none

end Happening

/-- the events that the queue accepted, in order of publication -/
def acceptedIn (hs : List (Happening α)) : List (Event α) := hs.filterMap Happening.accepted?

def notifiedIn (hs : List (Happening α)) : List (Event α) := hs.filterMap Happening.notified?

/-- what the calls returned -/
def returnedIn (hs : List (Happening α)) : List Nat := hs.filterMap Happening.returned?

theorem acceptedIn_append (hs hs' : List (Happening α)) :
    acceptedIn (hs ++ hs') = acceptedIn hs ++ acceptedIn hs' := List.filterMap_append
theorem notifiedIn_append (hs hs' : List (Happening α)) :
    notifiedIn (hs ++ hs') = notifiedIn hs ++ notifiedIn hs' := List.filterMap_append
theorem returnedIn_append (hs hs' : List (Happening α)) :
    returnedIn (hs ++ hs') = returnedIn hs ++ returnedIn hs' := List.filterMap_append

namespace Desk

/-- the events that the open call has still to notify of -/
def waiting (d : Desk α) : List (Event α) := (d.call.map (·.1)).getD []

theorem waiting_of_idle {d : Desk α} (h : d.call = none) : d.waiting = [] := by
  rw [waiting, h]
  rfl

theorem waiting_of_open {d : Desk α} {es : List (Event α)} {sent : Nat}
    (h : d.call = some (es, sent)) : d.waiting = es := by
  rw [waiting, h]
  rfl

variable [Scalar α] {net : Network α} {ws : List (Webhook α)}

/-- what may happen next -/
inductive Step (net : Network α) (ws : List (Webhook α)) : Desk α → Happening α → Desk α → Prop
  | publish (d : Desk α) (e : Event α) :
      Step net ws d (.published e (Bus.accepts d.relay.queue))
        { d with relay := { d.relay with queue := Bus.hear e d.relay.queue } }
  | call {d : Desk α} : d.call = none →
      Step net ws d .called
        { d with
          relay := { d.relay with queue := d.relay.queue.drain.2 }
          call := some (d.relay.queue.drain.1, 0) }
  | notify {d : Desk α} {e : Event α} {es : List (Event α)} {sent : Nat} :
      d.call = some (e :: es, sent) →
      Step net ws d (.notified e)
        { d with
          outbox := (notify net e ws d.outbox).2
          call := some (es, sent + if (notify net e ws d.outbox).1.any (·.2) then 1 else 0) }
  | finish {d : Desk α} {sent : Nat} : d.call = some ([], sent) →
      Step net ws d (.returned sent)
        { d with relay := { d.relay with forwarded := d.relay.forwarded + sent }, call := none }

/-- any number of steps, with all that happened -/
inductive Run (net : Network α) (ws : List (Webhook α)) : Desk α → List (Happening α) → Desk α → Prop
  | nil (d : Desk α) : Run net ws d [] d
  | cons {d d' d'' : Desk α} {h : Happening α} {hs : List (Happening α)} :
      Step net ws d h d' → Run net ws d' hs d'' → Run net ws d (h :: hs) d''

/-- a run splits wherever its history does -/
theorem Run.split {d d'' : Desk α} {hs hs' : List (Happening α)}
    (h : Run net ws d (hs ++ hs') d'') : ∃ d', Run net ws d hs d' ∧ Run net ws d' hs' d'' := by
  induction hs generalizing d with
  | nil => exact ⟨d, .nil d, h⟩
  | cons x hs ih =>
    obtain _ | ⟨hstep, hrest⟩ := h
    obtain ⟨d', hrun, hrun'⟩ := ih hrest
    exact ⟨d', .cons hstep hrun, hrun'⟩

/-! ## what a run keeps -/

/-- `hs` is what happened on the way from `d` to `d'`, and `log` what was posted -/
structure Kept (net : Network α) (ws : List (Webhook α)) (d : Desk α) (hs : List (Happening α))
    (log : List (Dispatch α)) (d' : Desk α) : Prop where
  logged : Logged net ws (notifiedIn hs) d.outbox.posts log d'.outbox.posts
  conserved : notifiedIn hs ++ (d'.waiting ++ d'.relay.queue.pending) =
    d.waiting ++ d.relay.queue.pending ++ acceptedIn hs
  forwarded : d'.relay.forwarded = d.relay.forwarded + (returnedIn hs).sum

namespace Kept

theorem refl (net : Network α) (ws : List (Webhook α)) (d : Desk α) : Kept net ws d [] [] d :=
  ⟨.nil net ws _, (List.append_nil _).symm, rfl⟩

theorem trans {d d' d'' : Desk α} {hs hs' : List (Happening α)} {log log' : List (Dispatch α)}
    (h : Kept net ws d hs log d') (h' : Kept net ws d' hs' log' d'') :
    Kept net ws d (hs ++ hs') (log ++ log') d'' where
  logged := by
    rw [notifiedIn_append]
    exact h.logged.append h'.logged
  conserved := by
    rw [notifiedIn_append, acceptedIn_append, List.append_assoc, h'.conserved, ← List.append_assoc,
      h.conserved, List.append_assoc]
  forwarded := by
    rw [returnedIn_append, List.sum_append, h'.forwarded, h.forwarded, Nat.add_assoc]

end Kept

/-- each step keeps the account, and one within a call goes on with the events of the call -/
theorem Step.kept {d d' : Desk α} {h : Happening α} (hstep : Step net ws d h d') :
    ∃ log, Kept net ws d [h] log d' ∧
      ∀ es sent es' sent', d.call = some (es, sent) → d'.call = some (es', sent') →
        notifiedIn [h] ++ es' = es ∧ sent' = sent + log.countP (·.succeeded) := by
  cases hstep with
  | publish e =>
    refine ⟨[], ⟨.nil net ws _, ?_, rfl⟩, fun es sent es' sent' hopen hopen' => ?_⟩
    · show d.waiting ++ (Bus.hear e d.relay.queue).pending = _
      rw [Queue.hear_pending, ← List.append_assoc]
      cases Bus.accepts d.relay.queue <;> rfl
    · obtain ⟨rfl, rfl⟩ := Prod.mk.inj (Option.some.inj (hopen.symm.trans hopen'))
      exact ⟨rfl, rfl⟩
  | call hidle =>
    refine ⟨[], ⟨.nil net ws _, ?_, rfl⟩, fun es sent _ _ hopen _ => nomatch hidle.symm.trans hopen⟩
    show d.relay.queue.pending ++ [] = d.waiting ++ d.relay.queue.pending ++ []
    rw [waiting_of_idle hidle, List.append_nil, List.append_nil, List.nil_append]
  | @notify e left sent₀ hnext =>
    obtain ⟨x, hx, hsuccess⟩ := notify_logged net e ws d.outbox
    refine ⟨[x], ⟨hx, ?_, rfl⟩, fun es sent es' sent' hopen hopen' => ?_⟩
    · show [e] ++ (left ++ d.relay.queue.pending) = d.waiting ++ d.relay.queue.pending ++ []
      rw [waiting_of_open hnext, List.append_nil]
      rfl
    · obtain ⟨rfl, rfl⟩ := Prod.mk.inj (Option.some.inj (hnext.symm.trans hopen))
      obtain ⟨rfl, rfl⟩ := Prod.mk.inj (Option.some.inj hopen')
      rw [hsuccess, List.countP_singleton]
      exact ⟨rfl, rfl⟩
  | @finish sent₀ hlast =>
    refine ⟨[], ⟨.nil net ws _, ?_, rfl⟩, fun _ _ _ _ _ hopen' => nomatch hopen'⟩
    show [] ++ ([] ++ d.relay.queue.pending) = d.waiting ++ d.relay.queue.pending ++ []
    rw [waiting_of_open hlast, List.append_nil]
    rfl

theorem Run.kept {d d' : Desk α} {hs : List (Happening α)} (h : Run net ws d hs d') :
    ∃ log, Kept net ws d hs log d' := by
  induction h with
  | nil d => exact ⟨[], .refl net ws d⟩
  | cons hstep _ ih =>
    obtain ⟨log, hlog, -⟩ := hstep.kept
    obtain ⟨log', hlog'⟩ := ih
    exact ⟨log ++ log', hlog.trans hlog'⟩

/-! ## an open call -/

theorem Run.idle {d d' : Desk α} {hs : List (Happening α)} (h : Run net ws d hs d')
    (hcalled : .called ∉ hs) (hidle : d.call = none) : d'.call = none := by
  induction h with
  | nil d => exact hidle
  | cons hstep _ ih =>
    refine ih (fun hmem => hcalled (List.mem_cons_of_mem _ hmem)) ?_
    cases hstep with
    | publish e => exact hidle
    | call _ => exact absurd List.mem_cons_self hcalled
    | notify hnext => exact nomatch hidle.symm.trans hnext
    | finish _ => rfl

/-- **An open call.** Until it returns, a call notifies of the events that it took, and of no other. -/
theorem Run.within_call {d d' : Desk α} {hs : List (Happening α)} {es es' : List (Event α)}
    {sent sent' : Nat} (h : Run net ws d hs d') (hcalled : .called ∉ hs)
    (hopen : d.call = some (es, sent)) (hopen' : d'.call = some (es', sent')) :
    ∃ log, Kept net ws d hs log d' ∧ notifiedIn hs ++ es' = es ∧
      sent' = sent + log.countP (·.succeeded) := by
  induction h generalizing es sent with
  | nil d =>
    obtain ⟨rfl, rfl⟩ := Prod.mk.inj (Option.some.inj (hopen.symm.trans hopen'))
    exact ⟨[], .refl net ws d, rfl, rfl⟩
  | @cons d₁ d₂ d₃ x hs hstep hrest ih =>
    have hcalled' : .called ∉ hs := fun hmem => hcalled (List.mem_cons_of_mem _ hmem)
    obtain ⟨log, hlog, hgoes⟩ := hstep.kept
    cases hcall : d₂.call with
    | none => exact nomatch (hrest.idle hcalled' hcall).symm.trans hopen'
    | some call =>
      obtain ⟨hevents, hsent⟩ := hgoes es sent call.1 call.2 hopen hcall
      obtain ⟨log', hlog', hevents', hsent'⟩ := ih hcalled' hcall hopen'
      refine ⟨log ++ log', hlog.trans hlog', ?_, ?_⟩
      · rw [← hevents, ← hevents', ← List.append_assoc, ← notifiedIn_append]
        rfl
      · rw [hsent', hsent, List.countP_append, Nat.add_assoc]

/-! ## a call that nothing interrupts -/

theorem notifyAll_run (net : Network α) (ws : List (Webhook α)) (es : List (Event α)) (d : Desk α)
    (sent : Nat) (hopen : d.call = some (es, sent)) :
    Run net ws d (es.map .notified ++ [.returned (sent + (notifyAll net ws es d.outbox).1)])
      ⟨{ d.relay with
          forwarded := d.relay.forwarded + (sent + (notifyAll net ws es d.outbox).1) },
        (notifyAll net ws es d.outbox).2, none⟩ := by
  induction es generalizing d sent with
  | nil => exact .cons (.finish hopen) (.nil _)
  | cons e es ih =>
    have hrest := ih _ _ (rfl : ({ d with
      outbox := (notify net e ws d.outbox).2
      call := some (es, sent + if (notify net e ws d.outbox).1.any (·.2) then 1 else 0) } :
        Desk α).call = _)
    rw [Nat.add_assoc] at hrest
    exact .cons (.notify hopen) hrest

/-- the relay as a function is the relay at work when nothing else happens -/
theorem flush_run (d : Desk α) (hidle : d.call = none) :
    Run net ws d
      (.called :: d.relay.queue.pending.map .notified ++
        [.returned (d.relay.flush net ws d.outbox).1])
      ⟨(d.relay.flush net ws d.outbox).2.1, (d.relay.flush net ws d.outbox).2.2, none⟩ := by
  have h := notifyAll_run net ws d.relay.queue.drain.1
    { d with
      relay := { d.relay with queue := d.relay.queue.drain.2 }
      call := some (d.relay.queue.drain.1, 0) } 0 rfl
  rw [Nat.zero_add] at h
  exact .cons (.call hidle) h

/-! ## all calls -/

/-- **Forwarding once.** From a relay with no call open on it, whatever is published and whenever it is
called: the account of all events, that each call notifies of exactly those accepted before it and not
notified of before, that it returns how many of these some webhook accepted, and that a call with nothing
in between is `Relay.flush`. -/
theorem Run.forwards_once {d d' : Desk α} {hs : List (Happening α)} (hidle : d.call = none)
    (h : Run net ws d hs d') :
    (∃ log, Kept net ws d hs log d') ∧
    (∀ before during sent after,
      hs = before ++ (.called :: during ++ .returned sent :: after) → .called ∉ during →
      ∃ d₁ d₂ log, Run net ws d before d₁ ∧
        Kept net ws d₁ (.called :: during ++ [.returned sent]) log d₂ ∧ Run net ws d₂ after d' ∧
        notifiedIn before ++ notifiedIn during = d.relay.queue.pending ++ acceptedIn before ∧
        sent = log.countP (·.succeeded)) ∧
    (d'.call = none →
      Run net ws d'
        (.called :: d'.relay.queue.pending.map .notified ++
          [.returned (d'.relay.flush net ws d'.outbox).1])
        ⟨(d'.relay.flush net ws d'.outbox).2.1, (d'.relay.flush net ws d'.outbox).2.2, none⟩) := by
  refine ⟨h.kept, ?_, d'.flush_run⟩
  rintro before during sent after rfl hcalled
  obtain ⟨d₁, hbefore, hcall⟩ := h.split
  obtain _ | ⟨hcall, hduring⟩ := hcall
  obtain ⟨d₂, hduring, hreturn⟩ := hduring.split
  obtain _ | ⟨hreturn, hafter⟩ := hreturn
  obtain ⟨log₁, hlog₁, -⟩ := hcall.kept
  obtain ⟨log₂, hlog₂, -⟩ := hreturn.kept
  obtain rfl : log₁ = [] := List.map_eq_nil_iff.mp hlog₁.logged.events
  obtain rfl : log₂ = [] := List.map_eq_nil_iff.mp hlog₂.logged.events
  obtain ⟨_, hconserved, _⟩ := hbefore.kept.choose_spec
  cases hcall with
  | call hidle₁ =>
    cases hreturn with
    | finish hlast =>
      obtain ⟨log, hlog, hevents, hsent⟩ := hduring.within_call hcalled rfl hlast
      refine ⟨d₁, _, log, hbefore, ?_, hafter, ?_, hsent.trans (Nat.zero_add _)⟩
      · have hall := (hlog₁.trans hlog).trans hlog₂
        rwa [List.nil_append, List.append_nil] at hall
      · rw [waiting_of_idle hidle, waiting_of_idle hidle₁, List.nil_append, List.nil_append]
          at hconserved
        rw [← hconserved, ← List.append_nil (notifiedIn during), hevents]
        rfl

/-! ### calls with events in between -/

def sampleEvent (s : Severity) : Event ℚ :=
  ⟨"threat_detected", "F", s, .honeypot, "0xabc", "P", 50, "S", 0⟩

/-- the one in the middle is switched off -/
def sampleWebhooks : List (Webhook ℚ) :=
  [⟨"slack", .slack, "https://s", .high, true, 10, ""⟩,
    ⟨"discord", .discord, "https://d", .low, false, 10, ""⟩,
    ⟨"json", .json, "https://j", .medium, true, 10, ""⟩]

/-- the first post gets through and the second one breaks; then nothing is accepted any more -/
def sampleNetwork : Network ℚ := fun before _ =>
  if before.length = 0 then .reply 200 "" else if before.length = 1 then .failure "" else .reply 500 ""

/-- while the first call is under way, three more events are published, and the queue has room for two -/
theorem Run.forwards_once_busy :
    ∃ (d' : Desk ℚ) (log : List (Dispatch ℚ)),
      Run sampleNetwork sampleWebhooks ⟨⟨.ofBound 2, 0⟩, .empty, none⟩
        [.published (sampleEvent .critical) true, .called, .published (sampleEvent .low) true,
          .notified (sampleEvent .critical), .published (sampleEvent .high) true,
          .published (sampleEvent .medium) false, .returned 1, .called,
          .notified (sampleEvent .low), .notified (sampleEvent .high), .returned 0] d' ∧
      log.map (·.event) = [sampleEvent .critical, sampleEvent .low, sampleEvent .high] ∧
      log.map (·.deliveries.map (·.webhook.id)) = [["slack", "json"], [], ["slack", "json"]] ∧
      d'.relay.forwarded = 1 := by
  have hrun : ∃ d', Run sampleNetwork sampleWebhooks ⟨⟨.ofBound 2, 0⟩, .empty, none⟩
        [.published (sampleEvent .critical) true, .called, .published (sampleEvent .low) true,
          .notified (sampleEvent .critical), .published (sampleEvent .high) true,
          .published (sampleEvent .medium) false, .returned 1, .called,
          .notified (sampleEvent .low), .notified (sampleEvent .high), .returned 0] d' :=
    ⟨_, .cons (.publish _ _) <| .cons (.call rfl) <| .cons (.publish _ _) <| .cons (.notify rfl) <|
      .cons (.publish _ _) <| .cons (.publish _ _) <| .cons (.finish rfl) <| .cons (.call rfl) <|
      .cons (.notify rfl) <| .cons (.notify rfl) <| .cons (.finish rfl) <| .nil _⟩
  obtain ⟨d', hrun⟩ := hrun
  obtain ⟨⟨log, hlog⟩, -, -⟩ := Run.forwards_once rfl hrun
  refine ⟨d', log, hrun, hlog.logged.events, ?_, hlog.forwarded⟩
  have hids : ∀ d ∈ log, d.deliveries.map (·.webhook.id) =
      (Webhook.targets sampleWebhooks d.event).map (·.1.id) := by
    intro d hd
    rw [← hlog.logged.targets d hd, List.map_map]
    rfl
  calc log.map (·.deliveries.map (·.webhook.id))
    _ = (log.map (·.event)).map fun e => (Webhook.targets sampleWebhooks e).map (·.1.id) := by
      rw [List.map_congr_left hids, List.map_map]
      rfl
    _ = _ := by
      rw [hlog.logged.events]
      rfl

end Desk

end ContractRisk
