import ContractRisk.Bus
import Mathlib.Data.List.Basic

/-!
# What a queue takes in

An event that is published leaves a queue as it is, is dropped or waits (`Hears`). From that follows what
many events in a row do to a queue on the bus: it takes as many as find room, and counts the others
(`hearAll_of_bounded`, `hearAll_of_unbounded`).

A queue can also be read, closed and taken off the bus. `Queue.run` follows acts of all kinds on one queue,
and `Accounts` is what each of them and hence the run keeps:

* `run_accounts`   what was read and what still waits is a part, in order, of what was published while the
  queue was on the bus, and the rest was counted as dropped.
-/

namespace ContractRisk

variable {α : Type}

namespace Queue

theorem isFull_iff {q : Queue α} : q.isFull = true ↔ 0 < q.bound ∧ q.bound ≤ q.pending.length := by
  simp [isFull]

theorem isFull_eq_false_iff {q : Queue α} :
    q.isFull = false ↔ q.bound ≤ 0 ∨ q.pending.length < q.bound := by
  rw [← Bool.not_eq_true, isFull_iff]
  omega

/-! ## one event -/

/-- what becomes of a queue when an event is published -/
inductive Hears (e : Event α) (q : Queue α) : Queue α → Prop
  | off : q.listening = false → Hears e q q
  | dropped : q.listening = true → q.isFull = true → Hears e q { q with dropped := q.dropped + 1 }
  | waits : q.listening = true → q.isFull = false → Hears e q { q with pending := q.pending ++ [e] }

theorem hears (e : Event α) (q : Queue α) : Hears e q (Bus.hear e q) := by
  unfold Bus.hear offer
  by_cases hl : q.listening = true
  · rw [if_pos hl]
    by_cases hf : q.isFull = true
    · rw [if_pos hf]
      exact .dropped hl hf
    · rw [if_neg hf]
      exact .waits hl (by simpa using hf)
  · rw [if_neg hl]
    exact .off (by simpa using hl)

/-- a queue that listens drops an event or lets it wait -/
theorem hear_of_listening {q : Queue α} (hl : q.listening = true) (e : Event α) :
    q.isFull = true ∧ Bus.hear e q = { q with dropped := q.dropped + 1 } ∨
      q.isFull = false ∧ Bus.hear e q = { q with pending := q.pending ++ [e] } := by
  have h := hears e q
  generalize Bus.hear e q = q' at h ⊢
  cases h with
  | off hoff => exact nomatch hl.symm.trans hoff
  | dropped _ hf => exact .inl ⟨hf, rfl⟩
  | waits _ hf => exact .inr ⟨hf, rfl⟩

theorem hear_pending (e : Event α) (q : Queue α) :
    (Bus.hear e q).pending = q.pending ++ if Bus.accepts q then [e] else [] := by
  have h := hears e q
  unfold Bus.accepts
  generalize Bus.hear e q = q' at h
  cases h with
  | off hl => simp [hl]
  | dropped hl hf => simp [hl, hf]
  | waits hl hf => simp [hl, hf]

/-- the queues that accept an event are those where one more waits afterwards -/
theorem accepts_iff (e : Event α) (q : Queue α) :
    Bus.accepts q = true ↔ q.pending.length < (Bus.hear e q).pending.length := by
  rw [hear_pending]
  cases Bus.accepts q <;> simp

/-! ## many events -/

def hearAll (q : Queue α) (es : List (Event α)) : Queue α := es.foldl (fun q e => Bus.hear e q) q

theorem hearAll_nil (q : Queue α) : q.hearAll [] = q := rfl
theorem hearAll_cons (q : Queue α) (e : Event α) (es : List (Event α)) :
    q.hearAll (e :: es) = (Bus.hear e q).hearAll es := rfl

theorem hearAll_of_off {q : Queue α} (hl : q.listening = false) (es : List (Event α)) :
    q.hearAll es = q := by
  induction es with
  | nil => rfl
  | cons e es ih =>
    rw [hearAll_cons]
    have hq : Bus.hear e q = q := if_neg (by rw [hl]; exact Bool.false_ne_true)
    rw [hq, ih]

theorem hearAll_of_unbounded (q : Queue α) (hl : q.listening = true) (hm : q.bound ≤ 0)
    (es : List (Event α)) : q.hearAll es = { q with pending := q.pending ++ es } := by
  induction es generalizing q with
  | nil => rw [hearAll_nil, List.append_nil]
  | cons e es ih =>
    rcases hear_of_listening hl e with ⟨hf, _⟩ | ⟨_, hq⟩
    · have := (isFull_iff.mp hf).1
      omega
    · rw [hearAll_cons, hq, ih { q with pending := q.pending ++ [e] } hl hm, List.append_assoc]
      rfl

/-- a queue with a bound takes the first events, as many as find room, and drops the others -/
theorem hearAll_of_bounded (q : Queue α) (hl : q.listening = true) (hm : 0 < q.bound)
    (es : List (Event α)) :
    q.hearAll es = { q with
      pending := q.pending ++ es.take (q.bound.toNat - q.pending.length)
      dropped := q.dropped + (es.length - min es.length (q.bound.toNat - q.pending.length)) } := by
  induction es generalizing q with
  | nil => simp [hearAll_nil]
  | cons e es ih =>
    rcases hear_of_listening hl e with ⟨hf, hq⟩ | ⟨hf, hq⟩
    · have hroom : q.bound.toNat - q.pending.length = 0 := by
        have := (isFull_iff.mp hf).2
        omega
      rw [hearAll_cons, hq, ih { q with dropped := q.dropped + 1 } hl hm]
      simp only [hroom, List.take_zero, List.append_nil, Nat.min_zero, Nat.sub_zero,
        List.length_cons]
      congr 1
      omega
    · obtain ⟨n, hn⟩ : ∃ n, q.bound.toNat - q.pending.length = n + 1 := by
        have := isFull_eq_false_iff.mp hf
        exact Nat.exists_eq_succ_of_ne_zero (by omega)
      have hrest : q.bound.toNat - (q.pending ++ [e]).length = n := by
        rw [List.length_append, List.length_singleton]
        omega
      rw [hearAll_cons, hq, ih { q with pending := q.pending ++ [e] } hl hm]
      simp only [hrest, hn, List.take_succ_cons, List.append_assoc, List.singleton_append,
        List.length_cons]
      congr 1
      omega

/-! ## acts on a queue -/

inductive Act (α : Type) where
  | hear (e : Event α)
  | take
  | drain
  | leave
  | close

namespace Act

/-- the event that is published -/
def event? : Act α → Option (Event α)
  | hear e => some e
  | _ => none

/-- does the act take the queue off the bus? -/
def removes : Act α → Bool
  | leave | close => true
  | _ => false

end Act

/-- the events that an act reads, and the queue afterwards -/
def perform (q : Queue α) : Act α → List (Event α) × Queue α
  | .hear e => ([], Bus.hear e q)
  | .take => q.take?.elim ([], q) fun x => ([x.1], x.2)
  | .drain => q.drain
  | .leave => ([], q.leave)
  | .close => ([], q.close)

/-- all events that are read in a row of acts, and the queue afterwards -/
def run (q : Queue α) : List (Act α) → List (Event α) × Queue α
  | [] => ([], q)
  | a :: as => ((q.perform a).1 ++ ((q.perform a).2.run as).1, ((q.perform a).2.run as).2)

/-- what is published until the queue is taken off the bus -/
def published (as : List (Act α)) : List (Event α) :=
  (as.takeWhile (!·.removes)).filterMap Act.event?

theorem published_of_removes {a : Act α} (h : a.removes = true) (as : List (Act α)) :
    published (a :: as) = [] := by
  unfold published
  rw [List.takeWhile_cons_of_neg (by simp [h])]
  rfl

theorem published_of_not_removes {a : Act α} (h : a.removes = false) (as : List (Act α)) :
    published (a :: as) = a.event?.toList ++ published as := by
  unfold published
  rw [List.takeWhile_cons_of_pos (by simp [h]), List.filterMap_cons]
  cases a.event? <;> rfl

/-! ## the account of a queue -/

/-- `heard` is what was published on the way from `q` to `q'`, and `read` what was read -/
structure Accounts (q : Queue α) (heard read : List (Event α)) (q' : Queue α) : Prop where
  bound : q'.bound = q.bound
  kept : ∃ kept, kept.Sublist heard ∧ read ++ q'.pending = q.pending ++ kept ∧
    kept.length + q'.dropped = heard.length + q.dropped
  within : 0 < q.bound → q.pending.length ≤ q.bound → q'.pending.length ≤ q.bound
  unbounded : q.bound ≤ 0 → q'.dropped = q.dropped

namespace Accounts

variable {q q' q'' : Queue α} {heard heard' read read' : List (Event α)}

theorem refl (q : Queue α) : Accounts q [] [] q :=
  ⟨rfl, ⟨[], .slnil, (List.append_nil _).symm, rfl⟩, fun _ h => h, fun _ => rfl⟩

theorem trans (h : Accounts q heard read q') (h' : Accounts q' heard' read' q'') :
    Accounts q (heard ++ heard') (read ++ read') q'' where
  bound := h'.bound.trans h.bound
  kept := by
    obtain ⟨kept, hsub, horder, hcount⟩ := h.kept
    obtain ⟨kept', hsub', horder', hcount'⟩ := h'.kept
    refine ⟨kept ++ kept', hsub.append hsub', ?_, ?_⟩
    · rw [List.append_assoc, horder', ← List.append_assoc, horder, List.append_assoc]
    · rw [List.length_append, List.length_append]
      omega
  within hm hq := by
    have hq' := h.within hm hq
    have hq'' := h'.within
    rw [h.bound] at hq''
    exact hq'' hm hq'
  unbounded hm := by
    have hq'' := h'.unbounded (h.bound.symm ▸ hm)
    rw [hq'', h.unbounded hm]

/-- acts that neither publish nor drop only hand out what waits, from the front -/
theorem of_read (hbound : q'.bound = q.bound) (horder : read ++ q'.pending = q.pending)
    (hdropped : q'.dropped = q.dropped) : Accounts q [] read q' where
  bound := hbound
  kept := ⟨[], .slnil, by rw [horder, List.append_nil], by rw [hdropped]⟩
  within _ hq := by
    have hlength := congrArg List.length horder
    rw [List.length_append] at hlength
    omega
  unbounded _ := hdropped

theorem of_hears {e : Event α} (h : Hears e q q') :
    Accounts q (if q.listening then [e] else []) [] q' := by
  cases h with
  | off hl =>
    rw [hl]
    exact refl q
  | dropped hl hf =>
    rw [hl]
    have hm := (isFull_iff.mp hf).1
    exact ⟨rfl, ⟨[], List.nil_sublist _, (List.append_nil _).symm, by simp; omega⟩, fun _ hq => hq,
      fun hfree => by omega⟩
  | waits hl hf =>
    rw [hl]
    refine ⟨rfl, ⟨[e], .refl _, rfl, rfl⟩, fun hm _ => ?_, fun _ => rfl⟩
    have hroom := isFull_eq_false_iff.mp hf
    show ((q.pending ++ [e]).length : Int) ≤ q.bound
    rw [List.length_append, List.length_singleton]
    omega

end Accounts

theorem take?_eq_none {q : Queue α} (h : q.pending = []) : q.take? = none := by
  unfold take?
  rw [h]

theorem take?_eq_some {q : Queue α} {e : Event α} {es : List (Event α)} (h : q.pending = e :: es) :
    q.take? = some (e, { q with pending := es }) := by
  unfold take?
  rw [h]

theorem perform_accounts (q : Queue α) (a : Act α) :
    Accounts q (if q.listening then a.event?.toList else []) (q.perform a).1 (q.perform a).2 := by
  have hquiet : (if q.listening then [] else []) = ([] : List (Event α)) := ite_self []
  cases a with
  | hear e => exact .of_hears (hears e q)
  | take =>
    rw [show (Act.take : Act α).event?.toList = [] from rfl, hquiet]
    show Accounts q [] (q.take?.elim ([], q) fun x => ([x.1], x.2)).1 _
    cases hp : q.pending with
    | nil =>
      show Accounts q [] _ (q.take?.elim ([], q) fun x => ([x.1], x.2)).2
      rw [take?_eq_none hp]
      exact .refl q
    | cons e es =>
      show Accounts q [] _ (q.take?.elim ([], q) fun x => ([x.1], x.2)).2
      rw [take?_eq_some hp]
      exact .of_read rfl hp.symm rfl
  | drain =>
    rw [show (Act.drain : Act α).event?.toList = [] from rfl, hquiet]
    exact .of_read rfl (List.append_nil _) rfl
  | leave =>
    rw [show (Act.leave : Act α).event?.toList = [] from rfl, hquiet]
    exact .of_read rfl rfl rfl
  | close =>
    rw [show (Act.close : Act α).event?.toList = [] from rfl, hquiet]
    exact .of_read rfl rfl rfl

theorem perform_listening (q : Queue α) (a : Act α) :
    (q.perform a).2.listening = (q.listening && !a.removes) := by
  cases a with
  | hear e =>
    show (Bus.hear e q).listening = _
    have h := hears e q
    generalize Bus.hear e q = q' at h
    cases h <;> simp [Act.removes]
  | take =>
    show (q.take?.elim ([], q) fun x => ([x.1], x.2)).2.listening = _
    cases hp : q.pending with
    | nil => rw [take?_eq_none hp]; simp [Act.removes]
    | cons e es => rw [take?_eq_some hp]; simp [Act.removes]
  | drain => simp [perform, drain, Act.removes]
  | leave => simp [perform, leave, Act.removes]
  | close => simp [perform, leave, close, Act.removes]

theorem run_listening (q : Queue α) (as : List (Act α)) :
    (q.run as).2.listening = (q.listening && as.all (!·.removes)) := by
  induction as generalizing q with
  | nil => simp [run]
  | cons a as ih =>
    show ((q.perform a).2.run as).2.listening = _
    rw [ih, perform_listening, List.all_cons, Bool.and_assoc]

/-- **The account of a queue.** Whatever befalls it, nothing is lost, added or put out of order, except
for what was dropped and counted. -/
theorem run_accounts (q : Queue α) (as : List (Act α)) :
    Accounts q (if q.listening then published as else []) (q.run as).1 (q.run as).2 := by
  induction as generalizing q with
  | nil =>
    rw [show published ([] : List (Act α)) = [] from rfl, ite_self]
    exact .refl q
  | cons a as ih =>
    have h := (q.perform_accounts a).trans (ih (q.perform a).2)
    rw [perform_listening] at h
    have hheard : ((if q.listening then a.event?.toList else []) ++
        if (q.listening && !a.removes) then published as else []) =
          if q.listening then published (a :: as) else [] := by
      cases q.listening with
      | false => rfl
      | true =>
        cases hr : a.removes with
        | false => rw [published_of_not_removes hr]; rfl
        | true =>
          rw [published_of_removes hr]
          cases a <;> first | rfl | exact nomatch hr
    rw [hheard] at h
    exact h

end Queue

end ContractRisk
