import ContractRisk.Bus
import ContractRisk.Webhook.Body

/-!
# Notifications

`notify` posts an event to every webhook that wants it and tells for each whether it was accepted. What comes
back of a post is up to the network; a post that fails is noted and stays with its webhook. A `Relay`
does so for the events of one queue of the bus.
-/

namespace ContractRisk

variable {α : Type}

structure Post (α : Type) where
  url : String
  body : Value
  /-- seconds that it may take -/
  timeout : α

/-- the headers of all posts -/
def Post.headers : List (String × Value) := [("Content-Type", .text "application/json")]

/-- what comes back of a post -/
inductive Outcome where
  | reply (status : Nat) (text : String)
  /-- nothing came back -/
  | failure (detail : String)
deriving Repr, DecidableEq

/-- what comes back of a post, given the posts before it -/
abbrev Network (α : Type) := List (Post α) → Post α → Outcome

/-- the posts so far, and the notes on them -/
structure Outbox (α : Type) where
  posts : List (Post α)
  diary : Diary

namespace Outbox

def empty : Outbox α := ⟨[], []⟩

def write (o : Outbox α) (notes : Diary) : Outbox α := { o with diary := o.diary ++ notes }

/-- sends a post -/
def post (o : Outbox α) (net : Network α) (p : Post α) : Outcome × Outbox α :=
  (net o.posts p, { o with posts := o.posts ++ [p] })

end Outbox

namespace Channel

def accepts (c : Channel) : Outcome → Bool
  | .reply status _ => c.accepted.contains status
  | .failure _ => false

def warning (message : String) : Note := ⟨.notification, .warning, message, .none⟩

def failureNote (c : Channel) (detail : String) : Note :=
  warning (c.name ++ " notification failed: " ++ detail)

/-- what is noted about an outcome that is not accepted -/
def complaint (c : Channel) : Outcome → Note
  | .reply status text =>
    warning (c.name ++ " webhook returned " ++ Text.natText status ++ ": " ++ text)
  | .failure detail => c.failureNote detail

end Channel

variable [Scalar α]

/-- a post as data -/
def Post.fields (p : Post α) : List (String × Value) :=
  [("url", .text p.url), ("body", p.body), ("headers", textMap headers),
    ("timeout", scalarValue p.timeout)]

/-! ## webhooks -/

namespace Webhook

/-- posts an event; was it accepted? -/
def deliver (w : Webhook α) (net : Network α) (e : Event α) (o : Outbox α) : Bool × Outbox α :=
  match w.body e with
  | .error f => (false, o.write [w.channel.failureNote f.message])
  | .ok body =>
    let (outcome, o) := o.post net ⟨w.url, body, w.timeout⟩
    if w.channel.accepts outcome then (true, o) else (false, o.write [w.channel.complaint outcome])

/-- posts an event if the webhook wants it -/
def send (w : Webhook α) (net : Network α) (e : Event α) (o : Outbox α) : Bool × Outbox α :=
  if w.wants e then w.deliver net e o else (false, o)

end Webhook

/-- the identifiers of the webhooks that want an event, each with its success -/
def notify (net : Network α) (e : Event α) :
    List (Webhook α) → Outbox α → List (String × Bool) × Outbox α
  | [], o => ([], o)
  | w :: ws, o =>
    if w.wants e then
      let (sent, o) := w.deliver net e o
      let (rest, o) := notify net e ws o
      ((w.id, sent) :: rest, o)
    else notify net e ws o

/-- notifies of events in order, and counts those that some webhook accepted -/
def notifyAll (net : Network α) (ws : List (Webhook α)) : List (Event α) → Outbox α → Nat × Outbox α
  | [], o => (0, o)
  | e :: es, o =>
    let (results, o) := notify net e ws o
    let (sent, o) := notifyAll net ws es o
    ((if results.any (·.2) then 1 else 0) + sent, o)

/-! ## the relay -/

structure Relay (α : Type) where
  queue : Queue α
  /-- how many events some webhook accepted so far -/
  forwarded : Nat

namespace Relay

/-- notifies of all events that wait, and gives the number of those that some webhook accepted -/
def flush (r : Relay α) (net : Network α) (ws : List (Webhook α)) (o : Outbox α) :
    Nat × Relay α × Outbox α :=
  let (events, queue) := r.queue.drain
  let (sent, o) := notifyAll net ws events o
  (sent, ⟨queue, r.forwarded + sent⟩, o)

/-- offers a last event past the bus -/
def offer (r : Relay α) (last : Option (Event α)) : Relay α :=
  match last with
  | none => r
  | some e => { r with queue := (r.queue.offer e).2 }

/-- runs until nothing waits and the queue is closed; a last event may come while it closes. Nothing is
forwarded from a queue that is closed at the start. -/
def run (r : Relay α) (net : Network α) (ws : List (Webhook α)) (last : Option (Event α))
    (o : Outbox α) : Relay α × Outbox α :=
  if r.queue.closed then (r.offer last, o)
  else
    let (_, r, o) := r.flush net ws o
    let (_, r, o) := (r.offer last).flush net ws o
    ({ r with queue := r.queue.close }, o)

end Relay

end ContractRisk
