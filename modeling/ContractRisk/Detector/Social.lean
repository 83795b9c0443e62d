import ContractRisk.Detector

/-!
# Social sentiment

Scores artificial hype: the mean of the manipulation signals that are present, weighted by kind.
-/

namespace ContractRisk.Social

inductive Channel where
  | botFollowers
  | coordinatedPosting
  | inorganicGrowth
deriving Repr, DecidableEq

def Channel.name : Channel → String
  | botFollowers => "bot_followers"
  | coordinatedPosting => "coordinated_posting"
  | inorganicGrowth => "inorganic_growth"

variable {α : Type} [Scalar α]

def Channel.weight : Channel → α
  | botFollowers => 0.40
  | coordinatedPosting => 0.35
  | inorganicGrowth => 0.25

/-- the nearest number of the unit interval -/
def clamp (x : α) : α := Scalar.greater (0.0 : α) (Scalar.lesser (1.0 : α) x)

/-- the signals present, as shares of one -/
def signals (s : SocialMetrics α) : List (Channel × α) :=
  let hundred : α := Scalar.ofInt 100
  [(Channel.botFollowers, s.botFollowerPercentage.map (· / hundred)),
    (.coordinatedPosting, s.coordinatedPostingScore.map (· / hundred)),
    (.inorganicGrowth, s.organicGrowthScore.map fun x => (hundred - x) / hundred)].filterMap
    fun e => e.2.map fun x => (e.1, clamp x)

/-- the weighted mean -/
def score (ss : List (Channel × α)) : α :=
  Scalar.sum (ss.map fun s => s.1.weight * s.2) / Scalar.sum (ss.map fun s => s.1.weight)

/-- is a signal present and above a bound? -/
def isAbove (ss : List (Channel × α)) (c : Channel) (bound : α) : Bool :=
  ss.any fun s => s.1 == c && decide (bound < s.2)

def evidence (ss : List (Channel × α)) : List String :=
  (if isAbove ss .botFollowers 0.3 then ["High bot follower ratio detected"] else []) ++
  (if isAbove ss .coordinatedPosting 0.5 then ["Coordinated posting patterns"] else []) ++
  (if isAbove ss .inorganicGrowth 0.7 then ["Inorganic follower growth"] else [])

def silence : Signal α := ⟨(0.0 : α), [], none, []⟩

def signal (b : Bundle α) : Signal α :=
  match b.socialMetrics.elim [] signals with
  | [] => silence
  | ss =>
    let score := score ss
    { confidence := score
      evidence := (evidence ss).map .text
      severity := some (if (0.8 : α) < score then .high else .medium)
      metadata := [("manipulation_score", fourPlaces score),
        ("signals", .map (ss.map fun s => (.text s.1.name, .float (Scalar.toFloat s.2))))] }

def applies (b : Bundle α) : Bool := !(b.socialMetrics.elim [] signals).isEmpty

def detector {σ : Type} : Detector α σ where
  id := "social_sentiment"
  name := .text "Social Media Manipulation Detected"
  description := .text "Artificial social media activity and sentiment manipulation"
  category := .socialEngineering
  severity := .medium
  threshold := 0.60
  riskScale := 0.70
  indicators := [.text "artificial_sentiment", .text "bot_activity", .text "coordinated_campaigns"]
  mitigation := .text "Verify organic community engagement and authentic discussions"
  applies b := .ok (applies b)
  analyze b state := (.ofSignal (signal b), state)

end ContractRisk.Social
