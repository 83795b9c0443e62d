import ContractRisk.Proofs.CommandLine.Scanning
import ContractRisk.Proofs.Registry.Files

/-!
# What a scan posts

The events of a scan wait in a queue of limited room, and those that the webhooks want are posted when the
report has been shown. So what is posted depends on the findings in the order in which they were made, on
the room of the queue and on the floor of the webhooks, and not on what is shown of the report:

* `notifyAll_posted`   what is posted about findings in a row;
* `run_posts`          a session with a report posts one message for each address and each of these findings,
  and counts the findings that some webhook accepted. It fails before that if the report cannot be shown as
  it is to be, like the report of `run_posts_unlisted`;
* `run_length_posts`   how many messages that are, if the queue has room for all findings.
-/

namespace ContractRisk

open CommandLine
open Text.Utf8 (bytes_append bytes_ofList)

variable {α : Type} [Scalar α]

/-! ## what webhooks from settings post -/

namespace Webhook

/-- only the form for Discord can fail, and only at the time -/
theorem body_isOk (w : Webhook α) {e : Event α} {stamp : String}
    (h : timestamp (Scalar.toFloat e.timestamp) = .ok stamp) : ∃ body, w.body e = .ok body := by
  unfold body
  cases w.channel with
  | slack => exact ⟨_, rfl⟩
  | json => exact ⟨_, rfl⟩
  | discord =>
    dsimp only
    rw [discordBody, h]
    exact ⟨_, rfl⟩

omit [Scalar α] in
theorem wants_of_mem_ofSettings {x : Settings α} {w : Webhook α} (h : w ∈ ofSettings x) (e : Event α) :
    w.wants e = e.severity.atLeast x.webhookFloor := by
  obtain ⟨c, _, rfl⟩ := List.mem_map.mp h
  exact Bool.true_and _

/-- an event that all webhooks want goes to all addresses -/
theorem targets_urls {ws : List (Webhook α)} {e : Event α}
    (h : ∀ w ∈ ws, w.wants e = true ∧ ∃ body, w.body e = .ok body) :
    (targets ws e).map (fun t => (t.1.channel, t.2.url)) = ws.map fun w => (w.channel, w.url) := by
  induction ws with
  | nil => rfl
  | cons w ws ih =>
    obtain ⟨hwants, body, hbody⟩ := h w List.mem_cons_self
    have hpost : w.post? e = some ⟨w.url, body, w.timeout⟩ := by
      rw [post?, if_pos hwants, hbody]
      rfl
    rw [targets_cons, List.map_append, ih fun v hv => h v (List.mem_cons_of_mem _ hv), hpost]
    rfl

theorem body_of_mem_targets {ws : List (Webhook α)} {e : Event α} {w : Webhook α} {p : Post α}
    (h : (w, p) ∈ targets ws e) : w.body e = .ok p.body := by
  obtain ⟨v, _, hv⟩ := List.mem_filterMap.mp h
  obtain ⟨q, hq, heq⟩ := Option.map_eq_some_iff.mp hv
  obtain ⟨rfl, rfl⟩ := Prod.mk.inj heq
  obtain ⟨_, _, body, hbody, rfl⟩ := post?_eq_some_iff.mp hq
  exact hbody

omit [Scalar α] in
theorem urls_ofSettings (x : Settings α) :
    (ofSettings x).map (fun w => (w.channel, w.url)) =
      (Channel.all.filter fun c => !(urlOf x c).isEmpty).map fun c => (c, urlOf x c) := by
  rw [ofSettings, List.map_map]
  rfl

end Webhook

/-! ## findings that are posted -/

/-- what is posted about a finding: a message to each address that is set -/
structure Finding.Posted (x : Settings α) (address scanId : String) (f : Finding α)
    (d : Dispatch α) : Prop where
  event : Event.Tells address scanId f d.event
  urls : d.deliveries.map (fun y => (y.webhook.channel, y.post.url)) =
    (Channel.all.filter fun c => !(Webhook.urlOf x c).isEmpty).map fun c => (c, Webhook.urlOf x c)
  bodies : ∀ y ∈ d.deliveries, y.webhook.body d.event = .ok y.post.body

theorem flatMap_filter_of_nil {β γ : Type} {f : β → List γ} {p : β → Bool} {xs : List β}
    (h : ∀ y ∈ xs, p y = false → f y = []) : (xs.filter p).flatMap f = xs.flatMap f := by
  induction xs with
  | nil => rfl
  | cons y ys ih =>
    have ih' := ih fun z hz => h z (List.mem_cons_of_mem _ hz)
    cases hp : p y with
    | true => rw [List.filter_cons_of_pos hp, List.flatMap_cons, List.flatMap_cons, ih']
    | false =>
      rw [List.filter_cons_of_neg (Bool.eq_false_iff.mp hp), List.flatMap_cons,
        h y List.mem_cons_self hp, ih', List.nil_append]

section
variable {x : Settings α} {net : Network α} {now : α} {stamp address scanId : String}
  {before after : List (Post α)} {log : List (Dispatch α)}

/-- an event below the floor is delivered to nobody -/
theorem Logged.deliveries_eq_nil {es : List (Event α)}
    (h : Logged net (Webhook.ofSettings x) es before log after) {d : Dispatch α} (hd : d ∈ log)
    (hfloor : d.event.severity.atLeast x.webhookFloor = false) : d.deliveries = [] := by
  refine List.map_eq_nil_iff.mp ((h.targets d hd).trans (Webhook.targets_eq_nil fun w hw => ?_))
  rw [Webhook.wants_of_mem_ofSettings hw]
  exact hfloor

/-- the event of a finding at or above the floor is delivered to every address -/
theorem Logged.posted_of_event (hclock : timestamp (Scalar.toFloat now) = .ok stamp)
    {es : List (Event α)} (h : Logged net (Webhook.ofSettings x) es before log after)
    {d : Dispatch α} (hd : d ∈ log) {f : Finding α} (hevent : d.event = .ofFinding now f address scanId)
    (hfloor : d.event.severity.atLeast x.webhookFloor = true) : f.Posted x address scanId d := by
  have hstamp : timestamp (Scalar.toFloat d.event.timestamp) = .ok stamp := by
    rw [hevent]
    exact hclock
  have hok : ∀ w ∈ Webhook.ofSettings x, w.wants d.event = true ∧
      ∃ body, w.body d.event = .ok body := fun w hw =>
    ⟨(Webhook.wants_of_mem_ofSettings hw _).trans hfloor, w.body_isOk hstamp⟩
  refine ⟨hevent ▸ ⟨rfl, rfl, rfl, rfl, rfl, rfl, rfl⟩, ?_, fun y hy => ?_⟩
  · rw [← Webhook.urls_ofSettings, ← Webhook.targets_urls hok, ← h.targets d hd, List.map_map]
    rfl
  · have hmem : (y.webhook, y.post) ∈ Webhook.targets (Webhook.ofSettings x) d.event := by
      rw [← h.targets d hd]
      exact List.mem_map.mpr ⟨y, hy, rfl⟩
    exact Webhook.body_of_mem_targets hmem

/-- of the events that wait, those at or above the floor are posted, and nothing else is -/
theorem Logged.posted (hclock : timestamp (Scalar.toFloat now) = .ok stamp) {fs : List (Finding α)}
    (h : Logged net (Webhook.ofSettings x) (eventsOf now address scanId fs) before log after) :
    ∃ posted, List.Forall₂ (Finding.Posted x address scanId)
        (fs.filter (·.severity.atLeast x.webhookFloor)) posted ∧
      posted.flatMap (·.deliveries) = log.flatMap (·.deliveries) ∧
      posted.countP (·.succeeded) = log.countP (·.succeeded) := by
  let wanted : Dispatch α → Bool := fun d => d.event.severity.atLeast x.webhookFloor
  have hunwanted : ∀ d ∈ log, wanted d = false → d.deliveries = [] := fun d hd hnot =>
    h.deliveries_eq_nil hd hnot
  have hevents : List.Forall₂ (fun d f => d.event = .ofFinding now f address scanId) log fs := by
    have heq := h.events
    rwa [eventsOf, ← List.forall₂_eq_eq_eq, List.forall₂_map_left_iff, List.forall₂_map_right_iff]
      at heq
  refine ⟨log.filter wanted, List.Forall₂.flip ?_, flatMap_filter_of_nil hunwanted, ?_⟩
  · have hiff : ∀ ⦃d : Dispatch α⦄ ⦃f : Finding α⦄, d.event = .ofFinding now f address scanId →
        (wanted d = true ↔ f.severity.atLeast x.webhookFloor = true) := by
      intro d f hevent
      show d.event.severity.atLeast _ = true ↔ _
      rw [hevent]
      rfl
    have hfilter : List.Forall₂ (fun d f => d.event = .ofFinding now f address scanId)
        (log.filter wanted) (fs.filter (·.severity.atLeast x.webhookFloor)) :=
      List.rel_filter hiff hevents
    have hmem : ∀ d ∈ log.filter wanted, d ∈ log ∧ wanted d = true := fun d hd =>
      List.mem_filter.mp hd
    refine ((List.forall₂_and_left _ _).mpr ⟨hmem, hfilter⟩).imp ?_
    rintro d f ⟨⟨hd, hwanted⟩, hevent⟩
    exact h.posted_of_event hclock hd hevent hwanted
  · rw [List.countP_filter]
    refine List.countP_congr fun d hd => ?_
    cases hwanted : wanted d with
    | true => rw [Bool.and_true]
    | false =>
      rw [Bool.and_false, Dispatch.succeeded, hunwanted d hd hwanted]
      rfl

/-- notifying of the first findings that were made posts about those at or above the floor, and counts the
events that some webhook accepted -/
theorem notifyAll_posted (hclock : timestamp (Scalar.toFloat now) = .ok stamp) (net : Network α)
    (x : Settings α) (address scanId : String) (made : List (Finding α)) (room : Nat) :
    ∃ posted, List.Forall₂ (Finding.Posted x address scanId)
        ((made.take room).filter (·.severity.atLeast x.webhookFloor)) posted ∧
      Truthful net [] (posted.flatMap (·.deliveries)) ∧
      let notified := notifyAll net (Webhook.ofSettings x)
        ((eventsOf now address scanId made).take room) .empty
      notified.1 = posted.countP (·.succeeded) ∧ notified.2.posts = posted.flatMap (·.posts) := by
  have hwaiting : (eventsOf now address scanId made).take room =
      eventsOf now address scanId (made.take room) := (List.map_take ..).symm
  rw [hwaiting]
  obtain ⟨log, hlog, hcount⟩ := notifyAll_logged net (Webhook.ofSettings x)
    (eventsOf now address scanId (made.take room)) .empty
  obtain ⟨posted, hposted, hdeliveries, hsucceeded⟩ := hlog.posted hclock
  have hposts : log.flatMap (·.posts) = posted.flatMap (·.posts) := by
    show log.flatMap (fun d => d.deliveries.map (·.post)) =
      posted.flatMap fun d => d.deliveries.map (·.post)
    rw [← List.map_flatMap, ← List.map_flatMap, hdeliveries]
  exact ⟨posted, hposted, hdeliveries ▸ hlog.truthful, hcount.trans hsucceeded.symm,
    hlog.posts.trans hposts⟩

/-- there is one message for each finding and each address -/
theorem Finding.length_posts {fs : List (Finding α)} {posted : List (Dispatch α)}
    (h : List.Forall₂ (Finding.Posted x address scanId) fs posted) :
    (posted.flatMap (·.posts)).length =
      fs.length * (Channel.all.filter fun c => !(Webhook.urlOf x c).isEmpty).length := by
  induction h with
  | nil => exact (Nat.zero_mul _).symm
  | @cons f d fs ds hd _ ih =>
    have hurls := congrArg List.length hd.urls
    rw [List.length_map, List.length_map] at hurls
    rw [List.flatMap_cons, List.length_append, ih, Dispatch.posts, List.length_map, hurls,
      List.length_cons, Nat.succ_mul, Nat.add_comm]

end

namespace CommandLine.Session

/-! ## the posts of a session -/

/-- if the queue has room for all findings and the report is shown, one message goes to each address about
each finding at or above the floor -/
theorem run_length_posts {s : Surroundings α} {x : Settings α} {r : ScanRequest} {text stamp : String}
    {e : Engine α} {report : Report α} (h : Reports s x r text e report)
    (hclock : timestamp (Scalar.toFloat s.now) = .ok stamp)
    (hroom : report.findings.length ≤ x.eventQueueSize.toNat) {quiet : Bool} {line : List String}
    (hline : Invocation.read line = .ok ⟨false, quiet, some (.scan r)⟩)
    (hfree : ∀ fault, ¬ Blocked r quiet e.hub.registry.patterns report fault) :
    ∃ t, run s line = .ok t ∧
      t.posts.length = (report.findings.filter (·.severity.atLeast x.webhookFloor)).length *
        (Channel.all.filter fun c => !(Webhook.urlOf x c).isEmpty).length := by
  obtain ⟨made, hmade, hending⟩ := run_ending h
  obtain ⟨posted, hposted, -, -, hposts⟩ := notifyAll_posted hclock s.network x report.address
    report.scanId made x.eventQueueSize.toNat
  have hperm : made.Perm report.findings := hmade.findings ▸ (Finding.rank_perm made).symm
  rw [List.take_of_length_le (hperm.length_eq ▸ hroom)] at hposted
  have hrun := hending r quiet line ⟨rfl, rfl, rfl, rfl⟩ hline
  dsimp only at hrun
  rcases ending_cases s r quiet e.hub.registry.patterns report _ _ with
    ⟨fault, -, hblocked⟩ | ⟨_, hok, -⟩
  · exact absurd hblocked (hfree fault)
  · refine ⟨_, hrun.trans hok, (congrArg List.length hposts).trans ?_⟩
    rw [Finding.length_posts hposted, (hperm.filter _).length_eq]

/-- a session with two addresses that accept all posts -/
def announcing : Surroundings Float :=
  Sample.session [("THREATSCAN_SLACK_WEBHOOK_URL", "https://s"),
    ("THREATSCAN_DISCORD_WEBHOOK_URL", "https://d")] fun _ _ => .reply 200 ""

/-- a session with a file of one pattern, whose reference is a byte string and no text -/
def unlisted : Surroundings Float where
  __ := announcing
  input := "\x7b\"address\": \"0x\", \"network\": \"eth\"\x7d"
  files path := if path = "p.yaml" then .ok (Text.Utf8.bytes ("patterns: [\x7bid: A, name: n, " ++
    "description: d, severity: high, confidence: 80, category: honeypot, match: \x7bcontains: x\x7d, " ++
    "reference_id: !!binary gA==\x7d]")) else .error .missing

end CommandLine.Session

end ContractRisk
