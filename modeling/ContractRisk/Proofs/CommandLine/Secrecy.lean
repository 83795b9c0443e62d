import ContractRisk.Proofs.CommandLine.Posting
import ContractRisk.Proofs.Notification.Twins

/-!
# Addresses stay secret

A session is compared with one whose settings differ in the addresses of the webhooks alone, each of which
is given in both or in neither (`Settings.Twin`), in surroundings that are the same as far as the command
reads them (`Surroundings.Same`).

* `run_twins`   both sessions end alike: at the same fault, or with the same code and with posts that are
  the same but for their addresses; and if the same comes back of the posts call by call, then what is
  printed is the same to the letter.
-/

namespace ContractRisk

open CommandLine

variable {α : Type}

/-! ## settings -/

/-- the settings differ in the addresses alone, which are given in both or in neither -/
structure Settings.Twin (x x' : Settings α) : Prop where
  rest : x' = { x with slackUrl := x'.slackUrl, discordUrl := x'.discordUrl, genericUrl := x'.genericUrl }
  given : ∀ c, (Webhook.urlOf x' c).isEmpty = (Webhook.urlOf x c).isEmpty

theorem Settings.Twin.rulesOnly {x x' : Settings α} (h : x.Twin x') :
    Settings.Twin { x with enableDetectors := false } { x' with enableDetectors := false } where
  rest := by rw [h.rest]
  given c := by
    have hgiven := h.given c
    cases c <;> exact hgiven

theorem Webhook.ofSettings_twins {x x' : Settings α} (h : x.Twin x') :
    List.Forall₂ Webhook.Twin (ofSettings x) (ofSettings x') := by
  have hfilter : (Channel.all.filter fun c => !(urlOf x' c).isEmpty) =
      Channel.all.filter fun c => !(urlOf x c).isEmpty :=
    List.filter_congr fun c _ => congrArg not (h.given c)
  unfold ofSettings
  rw [hfilter, List.forall₂_map_left_iff, List.forall₂_map_right_iff, List.forall₂_same]
  intro c _
  rw [h.rest]
  rfl

theorem Webhook.isEmpty_of_twins {ws ws' : List (Webhook α)} (h : List.Forall₂ Webhook.Twin ws ws') :
    ws'.isEmpty = ws.isEmpty := by
  rw [Bool.eq_iff_iff, List.isEmpty_iff_length_eq_zero, List.isEmpty_iff_length_eq_zero, h.length_eq]

namespace CommandLine

variable [Scalar α]

/-! ## surroundings -/

/-- the files that a command reads, that of its settings apart -/
def Command.reads (x : Settings α) : Command → List String
  | .config => []
  | .stats | .patterns _ => [Path.shown x.customPatterns]
  | .scan r => [r.bundle, Path.shown (Session.overridden r x).customPatterns]

/-- the surroundings are the same but for the network, the variables and files that are not among those
of the paths -/
structure Surroundings.Same (paths : List String) (s s' : Surroundings α) : Prop where
  files : ∀ path ∈ paths, s'.files path = s.files path
  input : s'.input = s.input
  supply : s'.supply = s.supply
  now : s'.now = s.now
  elapsed : s'.elapsed = s.elapsed
  machine : s'.machine = s.machine

omit [Scalar α] in
theorem Surroundings.Same.mono {paths paths' : List String} {s s' : Surroundings α} (h : s.Same paths s')
    (hpaths : paths' ⊆ paths) : s.Same paths' s' where
  __ := h
  files path hpath := h.files path (hpaths hpath)

theorem text_congr {files files' : FileTree} {path : String} (h : files' path = files path) :
    files'.text path = files.text path := by
  unfold FileTree.text
  rw [h]

namespace Session

variable {x x' : Settings α} {s s' : Surroundings α}

/-! ## the listing of settings -/

/-- a setting that is secret is only told to be there -/
theorem settingLine_secret (name : String)
    (hsecret : (secretMarks.any fun mark => Text.contains name mark) = true) {url url' : String}
    (hurl : url'.isEmpty = url.isEmpty) :
    settingLine (name, .text url') = settingLine (name, .text url) := by
  have htext : ∀ u : String, settingText name (.text u) = if u.isEmpty then "(not set)" else "****" :=
    fun u => if_pos hsecret
  unfold settingLine
  dsimp only
  rw [htext, htext, hurl]

/-- the listing depends on the lines of the fields, which are sorted by their names -/
theorem configText_eq (x : Settings α) :
    configText x = Report.lines (["", Paint.bold.apply "threatscan configuration", ""] ++
      ((x.fields.map fun f => (f.1, settingLine f)).mergeSort
        fun f g => decide (f.1 ≤ g.1)).map Prod.snd ++ [""]) := by
  rw [← List.map_mergeSort (r := fun f g => decide (f.1 ≤ g.1)) fun _ _ _ _ => rfl, List.map_map]
  rfl

theorem configText_of_twin (h : x.Twin x') : configText x' = configText x := by
  have hslack := settingLine_secret "slack_webhook_url" (by decide +kernel) (h.given .slack)
  have hdiscord := settingLine_secret "discord_webhook_url" (by decide +kernel) (h.given .discord)
  have hjson := settingLine_secret "generic_webhook_url" (by decide +kernel) (h.given .json)
  dsimp only [Webhook.urlOf] at hslack hdiscord hjson
  have hlines : x'.fields.map (fun f => (f.1, settingLine f)) =
      x.fields.map fun f => (f.1, settingLine f) := by
    rw [h.rest]
    simp only [Settings.fields, List.map_cons, List.map_nil, hslack, hdiscord, hjson]
  rw [configText_eq, configText_eq, hlines]

/-! ## engines -/

theorem engine_of_twin (hx : x.Twin x') (hs : s.Same [Path.shown x.customPatterns] s') :
    engine s' x' = engine s x := by
  have hfile := hs.files _ List.mem_cons_self
  have hload : (Pattern.load s'.files x.customPatterns s'.machine :
      Except PatternFileFault (List (Pattern α))) =
        Pattern.load s.files x.customPatterns s.machine := by
    unfold Pattern.load
    rw [text_congr hfile, hfile, hs.machine]
  have hcustom : ∀ r : Registry α,
      Engine.addCustom x' s'.files r s'.machine = Engine.addCustom x s.files r s.machine := by
    intro r
    rw [hx.rest]
    unfold Engine.addCustom Engine.addFile
    dsimp only
    rw [hload]
  have hengine : Engine.ofSettings x' none s'.files s'.supply s'.now ⟨Catalog.patterns⟩ s'.machine =
      Engine.ofSettings x none s.files s.supply s.now ⟨Catalog.patterns⟩ s.machine := by
    unfold Engine.ofSettings
    rw [hcustom, hs.supply, hs.now, hx.rest]
    rfl
  unfold engine
  rw [hengine]

/-- a request puts nothing in the place of addresses -/
theorem overridden_urls (r : ScanRequest) (x : Settings α) (slackUrl discordUrl genericUrl : String) :
    overridden r { x with slackUrl, discordUrl, genericUrl } =
        { overridden r x with slackUrl, discordUrl, genericUrl } ∧
      ∀ c, Webhook.urlOf (overridden r x) c = Webhook.urlOf x c := by
  unfold overridden
  dsimp only
  split <;> split <;> split <;> (try split) <;> exact ⟨rfl, fun c => by cases c <;> rfl⟩

theorem overridden_twin (h : x.Twin x') (r : ScanRequest) :
    (overridden r x).Twin (overridden r x') where
  rest := by
    rw [h.rest, (overridden_urls r x _ _ _).1]
  given c := by
    rw [(overridden_urls r x' "" "" "").2, (overridden_urls r x "" "" "").2]
    exact h.given c

/-! ## scans -/

/-- two sessions end at the same fault, or with transcripts that differ in the addresses of the posts; what
is printed may depend on what comes back of the posts -/
inductive Alike (net net' : Network α) :
    Except SessionFault (Transcript α) → Except SessionFault (Transcript α) → Prop
  | fault (f : SessionFault) : Alike net net' (.error f) (.error f)
  | transcript {t t' : Transcript α} : t'.status = t.status → t'.err = t.err →
      List.Forall₂ Post.Twin t.posts t'.posts →
      (answers net' [] t'.posts = answers net [] t.posts → t'.out = t.out) →
      Alike net net' (.ok t) (.ok t')

variable {net net' : Network α}

omit [Scalar α] in
/-- a transcript without posts -/
theorem Alike.refl {t : Transcript α} (h : t.posts = []) : Alike net net' (.ok t) (.ok t) :=
  .transcript rfl rfl (h ▸ .nil) fun _ => rfl

theorem relayed_inStep (s s' : Surroundings α) {ws ws' : List (Webhook α)}
    (hws : List.Forall₂ Webhook.Twin ws ws') (e : Engine α) (handle : Nat) :
    InStep s.network s'.network [] [] (relayed s e ws handle).2 (relayed s' e ws' handle).2
      (relayed s e ws handle).1 (relayed s' e ws' handle).1 := by
  unfold relayed
  cases e.hub.bus.queue? handle with
  | none => exact .refl 0
  | some queue => exact notifyAll_inStep hws queue.drain.1 .empty .empty

theorem scanWith_alike (hx : x.Twin x') (helapsed : s'.elapsed = s.elapsed) (r : ScanRequest)
    (quiet : Bool) (text : String) (e : Engine α) :
    Alike s.network s'.network (scanWith s r quiet text x e) (scanWith s' r quiet text x' e) := by
  have hws := Webhook.ofSettings_twins hx
  have hsubscribed : subscribed e (Webhook.ofSettings x') = subscribed e (Webhook.ofSettings x) := by
    unfold subscribed
    rw [Webhook.isEmpty_of_twins hws]
  unfold scanWith
  dsimp only
  rw [hsubscribed, helapsed]
  generalize subscribed e (Webhook.ofSettings x) = subscription
  obtain ⟨handle, e⟩ := subscription
  dsimp only
  rcases e.scan (.text text) with ⟨(f | problems) | report, e⟩
  · exact .refl rfl
  · exact .fault _
  dsimp only
  cases reportText r quiet s.elapsed _ report _ with
  | error fault => exact .fault _
  | ok text =>
    cases handle with
    | none => exact .refl rfl
    | some handle =>
      obtain ⟨ps, ps', hps, hps', htwins, hsent⟩ := relayed_inStep s s' hws e handle
      refine .transcript rfl rfl ?_ fun hanswers => ?_
      · show List.Forall₂ _ (relayed s e _ handle).2 (relayed s' e _ handle).2
        rw [hps, hps']
        exact htwins
      · have hanswers : answers s'.network [] (relayed s' e (Webhook.ofSettings x') handle).2 =
          answers s.network [] (relayed s e (Webhook.ofSettings x) handle).2 := hanswers
        rw [hps, hps'] at hanswers
        dsimp only [Option.map_some, Option.getD_some]
        rw [hsent hanswers]

theorem withEngine_alike (hx : x.Twin x') (hs : s.Same [Path.shown x.customPatterns] s')
    {f f' : Engine α → Except SessionFault (Transcript α)} (hf : ∀ e, Alike net net' (f e) (f' e)) :
    Alike net net' (withEngine s x f) (withEngine s' x' f') := by
  unfold withEngine
  rw [engine_of_twin hx hs]
  cases engine s x with
  | error f => exact .fault f
  | ok made =>
    cases made with
    | error message => exact .refl rfl
    | ok e => exact hf e

theorem scan_alike (hx : x.Twin x') {r : ScanRequest} (hs : s.Same ((Command.scan r).reads x) s')
    (quiet : Bool) : Alike s.network s'.network (scan s r quiet x) (scan s' r quiet x') := by
  have htext : bundleText s' r.bundle = bundleText s r.bundle := by
    unfold bundleText
    rw [text_congr (hs.files _ List.mem_cons_self), hs.input]
  unfold scan
  rw [htext]
  cases bundleText s r.bundle with
  | error f => exact .fault f
  | ok outcome =>
    cases outcome with
    | error message => exact .refl rfl
    | ok text =>
      have htwin := overridden_twin hx r
      have hsame := hs.mono (List.subset_cons_self r.bundle [Path.shown (overridden r x).customPatterns])
      exact withEngine_alike htwin hsame fun e => scanWith_alike htwin hs.elapsed r quiet text e

/-! ## sessions -/

theorem runCommand_alike (hx : x.Twin x') {c : Command} (hs : s.Same (c.reads x) s') (quiet : Bool) :
    Alike s.network s'.network (runCommand s quiet x c) (runCommand s' quiet x' c) := by
  cases c with
  | config =>
    unfold runCommand
    rw [configText_of_twin hx]
    exact .refl rfl
  | stats => exact withEngine_alike hx hs fun e => .refl rfl
  | patterns r =>
    refine withEngine_alike hx.rulesOnly hs fun e => ?_
    dsimp only
    split
    · exact .fault _
    · exact .refl rfl
  | scan r => exact scan_alike hx hs quiet

/-- the files that a command line reads under some settings, that of the settings apart -/
def reads (x : Settings α) (line : List String) : List String :=
  match Invocation.read line with
  | .ok ⟨_, _, some c⟩ => c.reads x
  | _ => []

/-- **Addresses stay secret.** Of two sessions with the same command line, whose settings differ in the
addresses of the webhooks alone, both end at the same fault, or with the same code and with posts that
differ in their addresses alone. If the same comes back of the posts call by call, then both print the same
text. -/
theorem run_twins (hsettings : settings s = .ok x) (hsettings' : settings s' = .ok x') (hx : x.Twin x')
    (line : List String) (hs : s.Same (reads x line) s') :
    Alike s.network s'.network (run s line) (run s' line) := by
  unfold reads at hs
  unfold run
  cases hline : Invocation.read line with
  | error ending =>
    cases ending with
    | help p => exact .refl rfl
    | complaint p f => exact .refl rfl
  | ok i =>
    obtain ⟨version, quiet, command⟩ := i
    rw [hline] at hs
    cases version with
    | true => exact .refl rfl
    | false =>
      dsimp only
      rw [hsettings, hsettings']
      cases command with
      | none => exact .refl rfl
      | some c => exact runCommand_alike hx hs quiet

/-- a session with one address, which accepts all posts -/
def posting (slackUrl : String) : Surroundings Float :=
  Sample.session [("THREATSCAN_SLACK_WEBHOOK_URL", slackUrl)] fun _ _ => .reply 200 ""

set_option maxRecDepth 10000 in
/-- two scans with posts to different addresses print the same text -/
theorem run_twins_slack :
    ∃ t t' : Transcript Float, run (posting "https://s/1") ["scan", "-"] = .ok t ∧
      run (posting "https://s/2") ["scan", "-"] = .ok t' ∧ t.posts.length = 1 ∧
      t'.posts.length = 1 ∧ t'.status = t.status ∧ t'.out = t.out := by
  have hsettings : settings (posting "https://s/1") = .ok (Sample.settings "https://s/1" "") := by rfl
  have hsettings' : settings (posting "https://s/2") = .ok (Sample.settings "https://s/2" "") := by rfl
  have hx : (Sample.settings "https://s/1" "").Twin (Sample.settings "https://s/2" "") :=
    ⟨rfl, fun c => by cases c <;> rfl⟩
  have halike := run_twins hsettings hsettings' hx ["scan", "-"] ⟨fun _ _ => rfl, rfl, rfl, rfl, rfl, rfl⟩
  obtain ⟨report, fs, h, hfound, hranked⟩ := Sample.reports hsettings none 0
  obtain ⟨hroom, hwanted⟩ := hfound.length_ranked hranked
  obtain ⟨stamp, hclock⟩ := Sample.exists_stamp
  have hread : Invocation.read ["scan", "-"] =
      .ok ⟨false, false, some (.scan (Sample.request none 0))⟩ := rfl
  obtain ⟨t, ht, hlength⟩ := run_length_posts h hclock hroom hread
    (not_blocked_of_plain rfl Catalog.plain)
  have hlength : t.posts.length = 1 := hlength.trans (congrArg (· * 1) hwanted)
  have ht : run (posting "https://s/1") ["scan", "-"] = .ok t := ht
  rw [ht] at halike
  generalize ht' : run (posting "https://s/2") ["scan", "-"] = outcome at halike
  cases halike with
  | @transcript _ t' hstatus _ htwins hout =>
    have hanswers : answers (posting "https://s/2").network [] t'.posts =
        answers (posting "https://s/1").network [] t.posts := by
      show answers (fun _ _ => .reply 200 "") [] _ = answers (fun _ _ => .reply 200 "") [] _
      rw [answers_const, answers_const, htwins.length_eq]
    exact ⟨t, t', ht, rfl, hlength, htwins.length_eq ▸ hlength, hstatus, hout hanswers⟩

end Session

end CommandLine

end ContractRisk
