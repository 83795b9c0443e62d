import ContractRisk.Diary
import ContractRisk.Event
import ContractRisk.Settings

/-!
# Webhooks

A `Webhook` says where events go and which of them: those at or above its floor, while it is enabled. The
channel fixes the form of what is posted and which statuses count as success.
-/

namespace ContractRisk

inductive Channel where
  | slack
  | discord
  | json
deriving Repr, DecidableEq, Inhabited

namespace Channel

def name : Channel → String
  | slack => "slack"
  | discord => "discord"
  | json => "json"

def all : List Channel := [slack, discord, json]

def ofName? (s : String) : Option Channel := all.find? fun c => c.name == s

theorem ofName?_name (c : Channel) : ofName? c.name = some c := by cases c <;> decide

/-- the statuses that count as success -/
def accepted : Channel → List Nat
  | slack => [200]
  | discord => [200, 204]
  | json => [200, 201, 202, 204]

end Channel

structure Webhook (α : Type) where
  id : String
  channel : Channel
  url : String
  /-- the least severity that is posted -/
  floor : Severity
  enabled : Bool
  /-- seconds that a post may take -/
  timeout : α
  /-- the name that posts on Discord go by -/
  username : String

namespace Webhook

variable {α : Type}

def standardName : String := "threatscan"

def wants (w : Webhook α) (e : Event α) : Bool := w.enabled && e.severity.atLeast w.floor

/-! ## from settings -/

/-- the address that settings give for a channel -/
def urlOf (s : Settings α) : Channel → String
  | .slack => s.slackUrl
  | .discord => s.discordUrl
  | .json => s.genericUrl

/-- one webhook for each channel with an address -/
def ofSettings (s : Settings α) : List (Webhook α) :=
  (Channel.all.filter fun c => !(urlOf s c).isEmpty).map fun channel =>
    ⟨channel.name, channel, urlOf s channel, s.webhookFloor, true, s.webhookTimeout, standardName⟩

/-! ## the list of webhooks -/

/-- puts a webhook into the list: in the place of the one with its identifier, else at the end -/
def put (w : Webhook α) : List (Webhook α) → List (Webhook α)
  | [] => [w]
  | v :: vs => if v.id = w.id then w :: vs else v :: put w vs

def without (id : String) (ws : List (Webhook α)) : List (Webhook α) := ws.filter fun w => w.id ≠ id

def registerNote (w : Webhook α) : Note :=
  ⟨.notification, .info, "Registered " ++ w.channel.name ++ " webhook " ++ w.id, .none⟩

end Webhook

end ContractRisk
