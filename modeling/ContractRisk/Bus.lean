import ContractRisk.Diary
import ContractRisk.Event

/-!
# The event bus

Every subscription has a queue of its own. An event that meets a full queue is dropped for that
subscription alone and counted there. A queue that is closed or taken off the bus no longer hears what is
published, but keeps what it holds.
-/

namespace ContractRisk

variable {α : Type}

structure Queue (α : Type) where
  /-- how many events may wait; no limit if this is not positive -/
  bound : Int
  pending : List (Event α)
  dropped : Nat
  /-- is it on the bus? -/
  listening : Bool
  closed : Bool

namespace Queue

def ofBound (bound : Int) : Queue α := ⟨bound, [], 0, true, false⟩

def isFull (q : Queue α) : Bool := 0 < q.bound && q.bound ≤ q.pending.length

/-- puts an event into the queue, or drops it; did it find room? -/
def offer (q : Queue α) (e : Event α) : Bool × Queue α :=
  if q.isFull then (false, { q with dropped := q.dropped + 1 })
  else (true, { q with pending := q.pending ++ [e] })

/-- takes the first event that waits -/
def take? (q : Queue α) : Option (Event α × Queue α) :=
  match q.pending with
  | [] => none
  | e :: r => some (e, { q with pending := r })

/-- takes all events that wait -/
def drain (q : Queue α) : List (Event α) × Queue α := (q.pending, { q with pending := [] })

/-- takes the queue off the bus -/
def leave (q : Queue α) : Queue α := { q with listening := false }

def close (q : Queue α) : Queue α := { q.leave with closed := true }

end Queue

/-- the queues of all subscriptions so far, the ones that listen in order of subscription -/
structure Bus (α : Type) where
  /-- the bound of a queue for which none is given -/
  standard : Int
  queues : List (Queue α)

namespace Bus

def ofStandard (bound : Int) : Bus α := ⟨bound, []⟩

/-- the number of queues that listen -/
def listeners (b : Bus α) : Nat := b.queues.countP (·.listening)

/-- the bound that a request stands for; none and zero stand for the standard one -/
def effective (b : Bus α) (bound : Option Int) : Int :=
  match bound with
  | none | some 0 => b.standard
  | some n => n

/-- opens a queue and gives its handle -/
def subscribe (b : Bus α) (bound : Option Int) : Nat × Bus α :=
  (b.queues.length, { b with queues := b.queues ++ [.ofBound (b.effective bound)] })

def queue? (b : Bus α) (handle : Nat) : Option (Queue α) := b.queues[handle]?

/-- replaces a queue -/
def put (b : Bus α) (handle : Nat) (q : Queue α) : Bus α := { b with queues := b.queues.set handle q }

/-- takes a queue off the bus, which does not close it -/
def unsubscribe (b : Bus α) (handle : Nat) : Bus α :=
  { b with queues := b.queues.modify handle Queue.leave }

/-- closes a queue and takes it off the bus -/
def close (b : Bus α) (handle : Nat) : Bus α :=
  { b with queues := b.queues.modify handle Queue.close }

/-- offers an event to a queue that listens -/
def hear (e : Event α) (q : Queue α) : Queue α := if q.listening then (q.offer e).2 else q

/-- does the queue listen and have room? -/
def accepts (q : Queue α) : Bool := q.listening && !q.isFull

/-- does the queue listen but have no room? -/
def refuses (q : Queue α) : Bool := q.listening && q.isFull

def dropNote (e : Event α) : Note where
  topic := .bus
  weight := .warning
  message := "Subscriber queue full, dropping " ++ e.event ++ " event for finding " ++ e.findingId
  context := { Context.none with scan := some e.scanId, pattern := some e.patternId }

/-- offers an event to all queues that listen -/
def publish (b : Bus α) (e : Event α) : Bus α := { b with queues := b.queues.map (hear e) }

/-- how many queues accept the next event -/
def deliveries (b : Bus α) : Nat := b.queues.countP accepts

/-- a note for each queue that drops the event -/
def drops (b : Bus α) (e : Event α) : Diary := (b.queues.filter refuses).map fun _ => dropNote e

end Bus

end ContractRisk
