import ContractRisk.Proofs.Bus.Queue

/-!
# What subscribers receive

`Bus.run` follows subscribing, publishing, reading, closing and unsubscribing on one bus. Of all these acts
a subscription notices what is published and what is done to itself (`Act.on?`), and nothing else: its queue
is the one that a run of these acts alone leaves (`run_queue?`). So the account of one queue is the account
of every subscription:

* `run_balanced`   what a subscriber has read and can still read is a part, in order, of what was published
  while it was subscribed, and the rest was dropped when its queue was full, and counted.
-/

namespace ContractRisk.Bus

variable {α : Type}

/-! ## acts on a bus -/

inductive Act (α : Type) where
  | subscribe (bound : Option Int)
  | publish (e : Event α)
  | take (handle : Nat)
  | drain (handle : Nat)
  | close (handle : Nat)
  | unsubscribe (handle : Nat)

/-- what an act gives back -/
inductive Result (α : Type) where
  | opened (handle : Nat)
  /-- how many subscriptions accepted an event -/
  | accepted (count : Nat)
  | events (es : List (Event α))
  /-- there is nothing to read -/
  | empty
  | done

def Result.read : Result α → List (Event α)
  | events es => es
  | _ => []

namespace Act

def event? : Act α → Option (Event α)
  | publish e => some e
  | _ => none

/-- does the act take the subscription off the bus? -/
def removes (handle : Nat) : Act α → Bool
  | close h | unsubscribe h => h == handle
  | _ => false

def reads (handle : Nat) : Act α → Bool
  | take h | drain h => h == handle
  | _ => false

/-- what a subscription notices of an act -/
def on? (handle : Nat) : Act α → Option (Queue.Act α)
  | publish e => some (.hear e)
  | take h => if h = handle then some .take else none
  | drain h => if h = handle then some .drain else none
  | close h => if h = handle then some .close else none
  | unsubscribe h => if h = handle then some .leave else none
  | subscribe _ => none

end Act

def perform (b : Bus α) : Act α → Result α × Bus α
  | .subscribe bound => (.opened (b.subscribe bound).1, (b.subscribe bound).2)
  | .publish e => (.accepted b.deliveries, b.publish e)
  | .take h =>
    match (b.queue? h).bind Queue.take? with
    | none => (.empty, b)
    | some (e, q) => (.events [e], b.put h q)
  | .drain h =>
    match b.queue? h with
    | none => (.empty, b)
    | some q => (.events q.drain.1, b.put h q.drain.2)
  | .close h => (.done, b.close h)
  | .unsubscribe h => (.done, b.unsubscribe h)

def run (b : Bus α) : List (Act α) → List (Result α) × Bus α
  | [] => ([], b)
  | a :: as => ((b.perform a).1 :: ((b.perform a).2.run as).1, ((b.perform a).2.run as).2)

/-- the events that a subscription gave to its reader -/
def readFrom (handle : Nat) (as : List (Act α)) (rs : List (Result α)) : List (Event α) :=
  (as.zip rs).flatMap fun x => if x.1.reads handle then x.2.read else []

/-- what is published until a subscription is taken off the bus -/
def published (handle : Nat) (as : List (Act α)) : List (Event α) :=
  (as.takeWhile (!·.removes handle)).filterMap Act.event?

/-! ## one subscription -/

theorem queue?_put_self {b : Bus α} {handle : Nat} {q : Queue α} (h : b.queue? handle = some q)
    (q' : Queue α) : (b.put handle q').queue? handle = some q' :=
  List.getElem?_set_self (List.getElem?_eq_some_iff.mp h).1

theorem queue?_put_ne {k handle : Nat} (hk : k ≠ handle) (b : Bus α) (q : Queue α) :
    (b.put k q).queue? handle = b.queue? handle := List.getElem?_set_ne hk

theorem queue?_modify (b : Bus α) (f : Queue α → Queue α) (h handle : Nat) :
    ({ b with queues := b.queues.modify h f } : Bus α).queue? handle =
      (b.queue? handle).map fun q => if h = handle then f q else q := by
  show (b.queues.modify h f)[handle]? = _
  rw [List.getElem?_modify]
  split <;> simp [queue?]

theorem queue?_publish (b : Bus α) (e : Event α) (handle : Nat) :
    (b.publish e).queue? handle = (b.queue? handle).map (hear e) := List.getElem?_map

theorem queue?_subscribe (b : Bus α) (bound : Option Int) {handle : Nat} {q : Queue α}
    (h : b.queue? handle = some q) : (b.subscribe bound).2.queue? handle = some q := by
  show (b.queues ++ [_])[handle]? = _
  rw [List.getElem?_append_left (List.getElem?_eq_some_iff.mp h).1]
  exact h

/-- an act changes the queue of a subscription, and gives events of it to a reader, as far as the
subscription notices it -/
theorem perform_queue? {b : Bus α} {handle : Nat} {q : Queue α} (h : b.queue? handle = some q)
    (a : Act α) :
    (b.perform a).2.queue? handle = some ((a.on? handle).elim q fun c => (q.perform c).2) ∧
      (if a.reads handle then (b.perform a).1.read else []) =
        (a.on? handle).elim [] fun c => (q.perform c).1 := by
  cases a with
  | subscribe bound => exact ⟨queue?_subscribe b bound h, rfl⟩
  | publish e =>
    refine ⟨?_, rfl⟩
    show (b.publish e).queue? handle = _
    rw [queue?_publish, h]
    rfl
  | take k =>
    unfold perform
    by_cases hk : k = handle
    · subst hk
      simp only [h, Option.bind_some, Act.on?, Act.reads, beq_self_eq_true, if_true,
        Option.elim_some, Queue.perform]
      cases q.take? with
      | none => exact ⟨h, rfl⟩
      | some x => exact ⟨queue?_put_self h x.2, rfl⟩
    · simp only [Act.on?, Act.reads, hk, beq_iff_eq, if_false, Option.elim_none, and_true]
      cases (b.queue? k).bind Queue.take? with
      | none => exact h
      | some x => exact (queue?_put_ne hk b x.2).trans h
  | drain k =>
    unfold perform
    by_cases hk : k = handle
    · subst hk
      simp only [h, Act.on?, Act.reads, beq_self_eq_true, if_true, Option.elim_some, Queue.perform]
      exact ⟨queue?_put_self h q.drain.2, rfl⟩
    · simp only [Act.on?, Act.reads, hk, beq_iff_eq, if_false, Option.elim_none, and_true]
      cases b.queue? k with
      | none => exact h
      | some x => exact (queue?_put_ne hk b x.drain.2).trans h
  | close k =>
    refine ⟨?_, ?_⟩
    · show ({ b with queues := b.queues.modify k Queue.close } : Bus α).queue? handle = _
      rw [queue?_modify, h]
      by_cases hk : k = handle <;> simp [Act.on?, hk, Queue.perform]
    · by_cases hk : k = handle <;> simp [Act.on?, Act.reads, hk, Queue.perform]
  | unsubscribe k =>
    refine ⟨?_, ?_⟩
    · show ({ b with queues := b.queues.modify k Queue.leave } : Bus α).queue? handle = _
      rw [queue?_modify, h]
      by_cases hk : k = handle <;> simp [Act.on?, hk, Queue.perform]
    · by_cases hk : k = handle <;> simp [Act.on?, Act.reads, hk, Queue.perform]

theorem readFrom_cons (handle : Nat) (a : Act α) (as : List (Act α)) (r : Result α)
    (rs : List (Result α)) : readFrom handle (a :: as) (r :: rs) =
      (if a.reads handle then r.read else []) ++ readFrom handle as rs := List.flatMap_cons

/-- a subscription goes its own way, whatever happens to the others -/
theorem run_queue? {b : Bus α} {handle : Nat} {q : Queue α} (h : b.queue? handle = some q)
    (as : List (Act α)) :
    (b.run as).2.queue? handle = some (q.run (as.filterMap (Act.on? handle))).2 ∧
      readFrom handle as (b.run as).1 = (q.run (as.filterMap (Act.on? handle))).1 := by
  induction as generalizing b q with
  | nil => exact ⟨h, rfl⟩
  | cons a as ih =>
    obtain ⟨hq, hread⟩ := perform_queue? h a
    obtain ⟨ih1, ih2⟩ := ih hq
    unfold run
    rw [readFrom_cons, hread, ih1, ih2, List.filterMap_cons]
    cases a.on? handle with
    | none => exact ⟨rfl, rfl⟩
    | some c => exact ⟨rfl, rfl⟩

theorem perform_standard (b : Bus α) (a : Act α) : (b.perform a).2.standard = b.standard := by
  cases a with
  | subscribe _ | publish _ | close _ | unsubscribe _ => rfl
  | take k =>
    simp only [perform]
    cases (b.queue? k).bind Queue.take? <;> rfl
  | drain k =>
    simp only [perform]
    cases b.queue? k <;> rfl

theorem run_standard (b : Bus α) (as : List (Act α)) : (b.run as).2.standard = b.standard := by
  induction as generalizing b with
  | nil => rfl
  | cons a as ih => exact (ih _).trans (b.perform_standard a)

/-! ## what is published to one -/

theorem event?_on? (handle : Nat) (a : Act α) : (a.on? handle).bind Queue.Act.event? = a.event? := by
  cases a with
  | subscribe _ | publish _ => rfl
  | take k | drain k | close k | unsubscribe k =>
    by_cases hk : k = handle <;> simp [Act.on?, hk] <;> rfl

theorem removes_on? (handle : Nat) (a : Act α) :
    (a.on? handle).elim false Queue.Act.removes = a.removes handle := by
  cases a with
  | subscribe _ | publish _ => rfl
  | take k | drain k | close k | unsubscribe k =>
    by_cases hk : k = handle <;> simp [Act.on?, Act.removes, Queue.Act.removes, hk]

theorem published_on? (handle : Nat) (as : List (Act α)) :
    Queue.published (as.filterMap (Act.on? handle)) = published handle as := by
  induction as with
  | nil => rfl
  | cons a as ih =>
    have hevent := event?_on? handle a
    have hremoves := removes_on? handle a
    rw [List.filterMap_cons]
    cases ha : a.on? handle with
    | none =>
      rw [ha] at hevent hremoves
      show Queue.published (as.filterMap (Act.on? handle)) = _
      rw [ih]
      unfold published
      rw [List.takeWhile_cons_of_pos (by rw [← hremoves]; rfl),
        List.filterMap_cons_none hevent.symm]
    | some c =>
      rw [ha] at hevent hremoves
      show Queue.published (c :: as.filterMap (Act.on? handle)) = _
      cases hc : c.removes with
      | true =>
        rw [Queue.published_of_removes hc]
        unfold published
        rw [List.takeWhile_cons_of_neg (by rw [← hremoves]; simp [hc])]
        rfl
      | false =>
        have hsame : a.event? = c.event? := hevent.symm
        rw [Queue.published_of_not_removes hc, ih]
        unfold published
        rw [List.takeWhile_cons_of_pos (by rw [← hremoves]; simp [hc]), List.filterMap_cons, hsame]
        cases c.event? <;> rfl

theorem all_on? (handle : Nat) (as : List (Act α)) :
    (as.filterMap (Act.on? handle)).all (!·.removes) = as.all (!·.removes handle) := by
  induction as with
  | nil => rfl
  | cons a as ih =>
    have hremoves := removes_on? handle a
    rw [List.filterMap_cons, List.all_cons, ← hremoves]
    cases a.on? handle with
    | none => exact ih
    | some c =>
      show (c :: as.filterMap (Act.on? handle)).all (!·.removes) = _
      rw [List.all_cons, ih]
      rfl

/-! ## the law -/

theorem deliveries_eq (b : Bus α) (e : Event α) :
    b.deliveries = (b.queues.zip (b.publish e).queues).countP fun x =>
      x.1.pending.length < x.2.pending.length := by
  show b.queues.countP accepts = (b.queues.zip (b.queues.map (hear e))).countP _
  induction b.queues with
  | nil => rfl
  | cons q qs ih =>
    rw [List.map_cons, List.zip_cons_cons, List.countP_cons, List.countP_cons, ih]
    simp only [Queue.accepts_iff e, decide_eq_true_eq]

/-- the account of a subscription with the bound `m`: what was published to it, what was read from it and
what became of its queue -/
structure Balanced (m : Int) (heard read : List (Event α)) (q : Queue α) : Prop where
  bound : q.bound = m
  order : (read ++ q.pending).Sublist heard
  count : (read ++ q.pending).length + q.dropped = heard.length
  within : 0 < m → q.pending.length ≤ m
  full : q.isFull = true ↔ 0 < m ∧ q.pending.length = m
  unbounded : m ≤ 0 → q.dropped = 0

theorem balanced_of_accounts {m : Int} {heard read : List (Event α)} {q : Queue α}
    (h : Queue.Accounts (.ofBound m) heard read q) : Balanced m heard read q := by
  obtain ⟨kept, hsub, horder, hcount⟩ := h.kept
  have hkept : read ++ q.pending = kept := horder
  have hwithin : 0 < m → q.pending.length ≤ m := fun hm => h.within hm (Int.le_of_lt hm)
  have hbound : q.bound = m := h.bound
  refine ⟨hbound, hkept ▸ hsub, hkept ▸ hcount, hwithin, ?_, h.unbounded⟩
  rw [Queue.isFull_iff, hbound]
  constructor
  · rintro ⟨hm, hfull⟩
    have := hwithin hm
    exact ⟨hm, by omega⟩
  · rintro ⟨hm, hfull⟩
    exact ⟨hm, by omega⟩

/-- **Conservation of events.** After any run, a subscription that was opened in it has been given and
holds events that were published meanwhile, in order, and has dropped all others; its queue is what the
publications and the acts on itself make of an empty one, and the next event waits there, is dropped for
want of room or passes it by. What a publication gives back is the number of queues that have grown. -/
theorem run_balanced (standard : Int) (before after : List (Act α)) (bound : Option Int) :
    let b := ((ofStandard standard).run before).2
    let s := b.queues.length
    let m := (ofStandard standard : Bus α).effective bound
    let out := b.run (.subscribe bound :: after)
    let read := readFrom s (.subscribe bound :: after) out.1
    out.1.head? = some (.opened s) ∧
    (∃ q, out.2.queue? s = some q ∧
      Balanced m (published s after) read q ∧
      (q.listening = true ↔ ∀ a ∈ after, a.removes s = false) ∧
      (read, q) = (Queue.ofBound m).run (after.filterMap (Act.on? s)) ∧
      ∀ e, ∃ q', (out.2.perform (.publish e)).2.queue? s = some q' ∧ Queue.Hears e q q') ∧
    ∀ e, (b.perform (.publish e)).1 = .accepted
      ((b.queues.zip (b.perform (.publish e)).2.queues).countP fun x =>
        x.1.pending.length < x.2.pending.length) := by
  intro b s m out read
  have hm : b.effective bound = m := by
    unfold effective
    rw [run_standard]
    rfl
  have hopened : (b.subscribe bound).2.queue? s = some (.ofBound m) := by
    show (b.queues ++ [Queue.ofBound (b.effective bound)])[b.queues.length]? = _
    rw [List.getElem?_concat_length, hm]
  obtain ⟨hqueue, hgiven⟩ := run_queue? hopened after
  generalize hrun : (Queue.ofBound m).run (after.filterMap (Act.on? s)) = x at hqueue hgiven
  obtain ⟨given, q⟩ := x
  have hq : out.2.queue? s = some q := hqueue
  have hread : read = given := hgiven
  have haccounts := Queue.run_accounts (.ofBound m) (after.filterMap (Act.on? s))
  have hlistening := Queue.run_listening (.ofBound m) (after.filterMap (Act.on? s))
  rw [published_on?, hrun] at haccounts
  rw [all_on?, hrun] at hlistening
  refine ⟨rfl, ⟨q, hq, ?_, ?_, ?_, fun e => ⟨hear e q, ?_, Queue.hears e q⟩⟩,
    fun e => congrArg Result.accepted (b.deliveries_eq e)⟩
  · rw [hread]
    exact balanced_of_accounts haccounts
  · rw [hlistening]
    simp [Queue.ofBound]
  · rw [hread]
  · show (out.2.publish e).queue? s = _
    rw [queue?_publish, hq]
    rfl

end ContractRisk.Bus
