import ContractRisk.Timestamp
import ContractRisk.Webhook

/-!
# What a webhook posts

Slack and Discord get a title and three facts about the finding, in their own forms; the plain channel gets
the event itself. Only the form for Discord holds the time as text, so only it can fail.
-/

namespace ContractRisk

namespace Severity

/-- red, green and blue, a byte each -/
def color : Severity → Nat
  | critical => 0xDC2626
  | high => 0xEA580C
  | medium => 0xF59E0B
  | low => 0x3B82F6

end Severity

variable {α : Type} [Scalar α]

namespace Event

def title (e : Event α) : String :=
  e.severity.title ++ " " ++ e.category.name ++ " threat on " ++ e.address

def riskText (e : Event α) : String := Scalar.fixed 1 e.riskScore

/-- what is told about the finding, each fact under its name -/
def facts (e : Event α) : List (String × String) :=
  [("Pattern", e.patternId), ("Risk score", e.riskText), ("Finding", e.findingId)]

end Event

namespace Webhook

/-! ## Slack -/

def slackColor (s : Severity) : String := "#" ++ String.ofList (Text.hexPadded 6 s.color)

def slackFact (f : String × String) : Value :=
  textMap [("type", .text "mrkdwn"), ("text", .text ("*" ++ f.1 ++ "*\n" ++ f.2))]

def slackBlocks (e : Event α) : Value :=
  .list [
    textMap [("type", .text "header"),
      ("text", textMap [("type", .text "plain_text"),
        ("text", .text (":rotating_light: " ++ e.title))])],
    textMap [("type", .text "section"), ("fields", .list (e.facts.map slackFact))]]

def slackBody (e : Event α) : Value :=
  textMap [("attachments", .list [
    textMap [("color", .text (slackColor e.severity)), ("blocks", slackBlocks e)]])]

/-! ## Discord -/

def discordFact (name value : String) (inline : Bool) : Value :=
  textMap [("name", .text name), ("value", .text value), ("inline", .bool inline)]

def discordFacts (e : Event α) : List Value :=
  [discordFact "Pattern" (if e.patternId.isEmpty then "-" else e.patternId) true,
    discordFact "Risk score" e.riskText true, discordFact "Finding" e.findingId false]

def discordEmbed (e : Event α) (stamp : String) : Value :=
  textMap [("title", .text e.title), ("color", .int e.severity.color), ("timestamp", .text stamp),
    ("fields", .list (discordFacts e)), ("footer", textMap [("text", .text standardName)])]

def discordBody (username : String) (e : Event α) : Except TimeFault Value :=
  (timestamp (Scalar.toFloat e.timestamp)).map fun stamp =>
    textMap (("embeds", .list [discordEmbed e stamp]) ::
      if username.isEmpty then [] else [("username", .text username)])

/-! ## webhooks as data -/

def fields (w : Webhook α) : List (String × Value) :=
  [("id", .text w.id), ("channel", .text w.channel.name), ("webhook_url", .text w.url),
    ("min_severity", .text w.floor.name), ("enabled", .bool w.enabled),
    ("timeout_seconds", scalarValue w.timeout), ("discord_username", .text w.username)]

/-! ## all channels -/

def body (w : Webhook α) (e : Event α) : Except TimeFault Value :=
  match w.channel with
  | .slack => .ok (slackBody e)
  | .discord => discordBody w.username e
  | .json => .ok (textMap e.fields)

end Webhook

end ContractRisk
