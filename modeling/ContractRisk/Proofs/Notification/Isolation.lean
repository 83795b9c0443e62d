import ContractRisk.Proofs.Notification.Dispatch
import Mathlib.Data.List.Forall2
import Mathlib.Data.List.Nodup

/-!
# Webhooks do not get into each other's way

Each webhook is told of an event by itself: what came back of its own post (`heard`) decides whether the
event was accepted there, and a body that cannot be made or a post that breaks is a refusal like any other.

* `notify_eq`         the results, one for each webhook that wants the event, by what was heard;
* `heard_append`      which post and which answer of the network that was;
* `Webhook.nodup_put` webhooks that are registered have distinct identifiers;
* `notify_isolated`   so a change at one webhook changes the entry of no other one.
-/

namespace ContractRisk

variable {α : Type}

/-! ## identifiers -/

namespace Webhook

theorem mem_ids_put {w : Webhook α} {ws : List (Webhook α)} {id : String}
    (h : id ∈ (put w ws).map (·.id)) : id = w.id ∨ id ∈ ws.map (·.id) := by
  induction ws with
  | nil => exact .inl (List.mem_singleton.mp h)
  | cons v vs ih =>
    unfold put at h
    split at h
    · rcases List.mem_cons.mp h with rfl | h
      · exact .inl rfl
      · exact .inr (List.mem_cons_of_mem _ h)
    · rcases List.mem_cons.mp h with rfl | h
      · exact .inr List.mem_cons_self
      · exact (ih h).imp_right (List.mem_cons_of_mem _)

/-- a webhook takes the place of the one with its identifier -/
theorem nodup_put {w : Webhook α} {ws : List (Webhook α)} (h : (ws.map (·.id)).Nodup) :
    ((put w ws).map (·.id)).Nodup := by
  induction ws with
  | nil => exact List.nodup_singleton w.id
  | cons v vs ih =>
    obtain ⟨hv, hvs⟩ := List.nodup_cons.mp h
    unfold put
    split
    · next heq =>
      have hw : w.id ∉ vs.map (·.id) := heq ▸ (hv : v.id ∉ vs.map (·.id))
      exact List.nodup_cons.mpr ⟨hw, hvs⟩
    · next hne =>
      refine List.nodup_cons.mpr ⟨fun hmem => ?_, ih hvs⟩
      exact (mem_ids_put hmem).elim hne hv

/-- webhooks that are registered one after the other -/
theorem nodup_foldl_put (ws : List (Webhook α)) {vs : List (Webhook α)} (h : (vs.map (·.id)).Nodup) :
    ((ws.foldl (fun vs w => put w vs) vs).map (·.id)).Nodup := by
  induction ws generalizing vs with
  | nil => exact h
  | cons w ws ih => exact ih (nodup_put h)

theorem nodup_without (id : String) {ws : List (Webhook α)} (h : (ws.map (·.id)).Nodup) :
    ((without id ws).map (·.id)).Nodup :=
  h.sublist (List.filter_sublist.map _)

end Webhook

/-! ## what a webhook hears -/

variable [Scalar α]

/-- what comes back of the post of the webhook with an identifier; nothing if it posts nothing -/
def heard (net : Network α) (e : Event α) : List (Webhook α) → List (Post α) → String → Option Outcome
  | [], _, _ => none
  | w :: ws, before, id =>
    if w.id = id then (w.post? e).map (net before)
    else heard net e ws (before ++ (w.post? e).toList) id

section
variable {net : Network α} {e : Event α} {w : Webhook α} {us ws : List (Webhook α)}
  {before : List (Post α)} {o : Outbox α}

theorem heard_cons_of_ne {id : String} (h : w.id ≠ id) :
    heard net e (w :: ws) before id = heard net e ws (before ++ (w.post? e).toList) id := if_neg h

/-- a webhook hears the answer to its own post, after the posts of those in front of it -/
theorem heard_append (h : w.id ∉ us.map (·.id)) :
    heard net e (us ++ w :: ws) before w.id =
      (w.post? e).map (net (before ++ (Webhook.targets us e).map (·.2))) := by
  induction us generalizing before with
  | nil =>
    rw [Webhook.targets_nil, List.map_nil, List.append_nil]
    exact if_pos rfl
  | cons u us ih =>
    obtain ⟨hu, hus⟩ := List.ne_and_not_mem_of_not_mem_cons h
    have hposts : (Webhook.targets (u :: us) e).map (·.2) =
        (u.post? e).toList ++ (Webhook.targets us e).map (·.2) := by
      rw [Webhook.targets_cons, List.map_append]
      cases u.post? e <;> rfl
    rw [List.cons_append, heard_cons_of_ne (Ne.symm hu), ih hus, hposts, List.append_assoc]

/-- networks that answer to all webhooks alike but one, whatever was posted before -/
theorem heard_congr {net' : Network α} {i : String}
    (h : ∀ w ∈ ws, w.id ≠ i → ∀ p, w.post? e = some p → ∀ before before', net' before' p = net before p)
    (before before' : List (Post α)) :
    ∀ id ≠ i, heard net' e ws before' id = heard net e ws before id := by
  induction ws generalizing before before' with
  | nil => exact fun _ _ => rfl
  | cons w ws ih =>
    obtain ⟨hw, hws⟩ := List.forall_mem_cons.mp h
    intro id hid
    unfold heard
    split
    · next heq =>
      cases hpost : w.post? e with
      | none => rfl
      | some p => exact congrArg some (hw (heq ▸ hid) p hpost before before')
    · exact ih hws _ _ id hid

theorem Webhook.deliver_heard (h : w.wants e = true) (net : Network α) (o : Outbox α) :
    (w.deliver net e o).1 = ((w.post? e).map (net o.posts)).any w.channel.accepts ∧
      (w.deliver net e o).2.posts = o.posts ++ (w.post? e).toList := by
  obtain ⟨hsuccess, hposts⟩ := Webhook.deliver_eq h net o
  rw [hsuccess, hposts]
  unfold Webhook.deliveries
  cases w.post? e with
  | none => exact ⟨rfl, rfl⟩
  | some p => exact ⟨Bool.or_false _, rfl⟩

/-- the webhooks that want an event, in their order, each with what it made of what it heard -/
theorem notify_eq (hws : (ws.map (·.id)).Nodup) :
    (notify net e ws o).1 = (ws.filter (·.wants e)).map fun w =>
      (w.id, (heard net e ws o.posts w.id).any w.channel.accepts) := by
  induction ws generalizing o with
  | nil => rfl
  | cons w ws ih =>
    obtain ⟨hw, hws⟩ := List.nodup_cons.mp hws
    have htail : (ws.filter (·.wants e)).map (fun v =>
          (v.id, (heard net e (w :: ws) o.posts v.id).any v.channel.accepts)) =
        (ws.filter (·.wants e)).map fun v =>
          (v.id, (heard net e ws (o.posts ++ (w.post? e).toList) v.id).any v.channel.accepts) := by
      refine List.map_congr_left fun v hv => ?_
      rw [heard_cons_of_ne fun heq => hw (List.mem_map.mpr ⟨v, (List.mem_filter.mp hv).1, heq.symm⟩)]
    by_cases h : w.wants e = true
    · obtain ⟨hsent, hposts⟩ := Webhook.deliver_heard h net o
      have hself : heard net e (w :: ws) o.posts w.id = (w.post? e).map (net o.posts) := if_pos rfl
      rw [notify, if_pos h, List.filter_cons, if_pos h, List.map_cons, htail, hself, ← hsent, ← hposts]
      exact congrArg _ (ih hws)
    · have hnone : w.post? e = none := if_neg h
      rw [notify, if_neg h, List.filter_cons, if_neg h, htail, hnone, Option.toList_none, List.append_nil]
      exact ih hws

end

/-! ## changes at one webhook -/

/-- rows of webhooks that differ at most in the one with an identifier, which wants the event or not, as
before -/
def AlikeBut (i : String) (e : Event α) (ws ws' : List (Webhook α)) : Prop :=
  List.Forall₂ (fun w w' => w'.id = w.id ∧ w'.wants e = w.wants e ∧ (w.id ≠ i → w' = w)) ws ws'

section
variable {i : String} {e : Event α} {ws ws' : List (Webhook α)}

omit [Scalar α] in
theorem AlikeBut.ids_eq (h : AlikeBut i e ws ws') : ws'.map (·.id) = ws.map (·.id) := by
  induction h with
  | nil => rfl
  | cons hw _ ih => rw [List.map_cons, List.map_cons, hw.1, ih]

omit [Scalar α] in
theorem AlikeBut.wanting (h : AlikeBut i e ws ws') :
    AlikeBut i e (ws.filter (·.wants e)) (ws'.filter (·.wants e)) := by
  induction h with
  | nil => exact .nil
  | cons hw _ ih =>
    rw [List.filter_cons, List.filter_cons, hw.2.1]
    split
    · exact .cons hw ih
    · exact ih

/-- results that differ at most in the entry under an identifier -/
theorem notify_alikeBut (hws : (ws.map (·.id)).Nodup) {net net' : Network α} {o o' : Outbox α}
    (h : AlikeBut i e ws ws')
    (hheard : ∀ id ≠ i, heard net' e ws' o'.posts id = heard net e ws o.posts id) :
    List.Forall₂ (fun x y => y.1 = x.1 ∧ (x.1 ≠ i → y.2 = x.2))
      (notify net e ws o).1 (notify net' e ws' o').1 := by
  rw [notify_eq hws, notify_eq (h.ids_eq ▸ hws), List.forall₂_map_left_iff, List.forall₂_map_right_iff]
  refine List.Forall₂.imp (fun w w' ⟨hid, _, hsame⟩ => ⟨hid, fun hne => ?_⟩) h.wanting
  obtain rfl := hsame hne
  dsimp only
  rw [hheard _ hne]

end

/-- what was heard is accepted if there was a body to post and a status that the channel accepts -/
theorem any_accepts_iff {w : Webhook α} {e : Event α} (h : w.wants e = true) {answer : Post α → Outcome} :
    ((w.post? e).map answer).any w.channel.accepts = true ↔
      ∃ body status text, w.body e = .ok body ∧ answer ⟨w.url, body, w.timeout⟩ = .reply status text ∧
        status ∈ w.channel.accepted := by
  unfold Webhook.post?
  rw [if_pos h]
  cases w.body e with
  | error f => exact ⟨nofun, fun ⟨_, _, _, hbody, _⟩ => nomatch hbody⟩
  | ok body =>
    show w.channel.accepts (answer ⟨w.url, body, w.timeout⟩) = true ↔ _
    cases hanswer : answer ⟨w.url, body, w.timeout⟩ with
    | reply status text =>
      show w.channel.accepted.contains status = true ↔ _
      rw [List.contains_iff_mem]
      constructor
      · exact fun hstatus => ⟨body, status, text, rfl, hanswer, hstatus⟩
      · rintro ⟨_, status', _, hbody, hreply, hstatus⟩
        obtain rfl := Except.ok.inj hbody
        obtain ⟨rfl, _⟩ := Outcome.reply.inj (hanswer.symm.trans hreply)
        exact hstatus
    | failure detail =>
      refine ⟨nofun, ?_⟩
      rintro ⟨_, _, _, hbody, hreply, _⟩
      obtain rfl := Except.ok.inj hbody
      exact nomatch hanswer.symm.trans hreply

/-- **Notifying isolates webhooks.** The results are one for each webhook that is enabled and whose floor
the event meets. One says success exactly if the webhook's own body could be made and the answer to its own
post has a status that its channel accepts. What changes at one webhook, be it the answer or whether there
is a body, changes the result of no other one. -/
theorem notify_isolated {ws : List (Webhook α)} (hws : (ws.map (·.id)).Nodup) (net : Network α)
    (e : Event α) (o : Outbox α) :
    let results := (notify net e ws o).1
    (results.map (·.1)).Nodup ∧
    (∀ id, id ∈ results.map (·.1) ↔
      ∃ w ∈ ws, w.id = id ∧ w.enabled = true ∧ e.severity.atLeast w.floor = true) ∧
    (∀ us w vs, ws = us ++ w :: vs → ∀ success, (w.id, success) ∈ results → (success = true ↔
      ∃ body status text, w.body e = .ok body ∧
        net (o.posts ++ (Webhook.targets us e).map (·.2)) ⟨w.url, body, w.timeout⟩ =
          .reply status text ∧
        status ∈ w.channel.accepted)) ∧
    ∀ i ws' net' o', AlikeBut i e ws ws' →
      (∀ id ≠ i, heard net' e ws' o'.posts id = heard net e ws o.posts id) →
      List.Forall₂ (fun x y => y.1 = x.1 ∧ (x.1 ≠ i → y.2 = x.2)) results (notify net' e ws' o').1 := by
  intro results
  have hresults : results = _ := notify_eq hws
  have hids : results.map (·.1) = (ws.filter (·.wants e)).map (·.id) := by
    rw [hresults, List.map_map]
    rfl
  refine ⟨?_, fun id => ?_, ?_, fun i ws' net' o' halike hheard => notify_alikeBut hws halike hheard⟩
  · rw [hids]
    exact hws.sublist (List.filter_sublist.map _)
  · rw [hids]
    simp only [List.mem_map, List.mem_filter, Webhook.wants, Bool.and_eq_true]
    exact ⟨fun ⟨w, ⟨hw, hwants⟩, hid⟩ => ⟨w, hw, hid, hwants⟩,
      fun ⟨w, hw, hid, hwants⟩ => ⟨w, ⟨hw, hwants⟩, hid⟩⟩
  · rintro us w vs rfl success hmem
    rw [hresults] at hmem
    obtain ⟨v, hv, heq⟩ := List.mem_map.mp hmem
    obtain ⟨hid, rfl⟩ := Prod.mk.inj heq
    obtain ⟨hv, hwants⟩ := List.mem_filter.mp hv
    have hw : w ∈ us ++ w :: vs := List.mem_append_right us List.mem_cons_self
    obtain rfl : v = w := List.inj_on_of_nodup_map hws hv hw hid
    have hfirst : v.id ∉ us.map (·.id) := by
      rw [List.map_append, List.map_cons, List.nodup_middle, List.nodup_cons] at hws
      exact fun h => hws.1 (List.mem_append_left _ h)
    rw [heard_append hfirst]
    exact any_accepts_iff hwants

/-! ### three outcomes at once -/

namespace Sample

/-- an event at a time that no clock holds -/
def timeless : Event Float :=
  ⟨"threat_detected", "F", .high, .honeypot, "0xabc", "P", 50, "S", 1e300⟩

/-- the last one waits for critical events, and one has been taken off again -/
def registered : List (Webhook Float) :=
  Webhook.without "mail" <|
    [⟨"slack", .slack, "https://s", .low, true, 10, ""⟩,
      ⟨"discord", .discord, "https://d", .low, true, 10, ""⟩,
      ⟨"mail", .json, "https://m", .low, true, 10, ""⟩,
      ⟨"json", .json, "https://j", .medium, true, 10, ""⟩,
      ⟨"pager", .json, "https://p", .critical, true, 10, ""⟩].foldl (fun ws w => Webhook.put w ws) []

theorem nodup_registered : (registered.map (·.id)).Nodup :=
  Webhook.nodup_without "mail" (Webhook.nodup_foldl_put _ List.nodup_nil)

/-- a network that answers posts to one address with a status, and all others with 200 -/
def answering (status : Nat) : Network Float := fun _ p =>
  .reply (if p.url = "https://j" then status else 200) ""

end Sample

open Sample in
/-- one webhook accepts, one has no body to post, and what the third one says is its own affair -/
theorem notify_isolated_mixed :
    let results status := (notify (answering status) timeless registered .empty).1
    (registered.map (·.id)).Nodup ∧
      results 500 = [("slack", true), ("discord", false), ("json", false)] ∧
      List.Forall₂ (fun x y => y.1 = x.1 ∧ (x.1 ≠ "json" → y.2 = x.2)) (results 500) (results 204) ∧
      ("json", true) ∈ results 204 := by
  intro results
  obtain ⟨-, -, -, hisolated⟩ :=
    notify_isolated nodup_registered (answering 500) timeless .empty
  have halike : AlikeBut "json" timeless registered registered :=
    List.forall₂_same.mpr fun w _ => ⟨rfl, rfl, fun _ => rfl⟩
  have hheard : ∀ id ≠ "json", heard (answering 204) timeless registered [] id =
      heard (answering 500) timeless registered [] id := by
    refine heard_congr (fun w hw hid p hp before before' => ?_) [] []
    have hother : ∀ w ∈ registered, w.id ≠ "json" → w.url ≠ "https://j" := by decide
    obtain ⟨_, _, _, _, rfl⟩ := Webhook.post?_eq_some_iff.mp hp
    have hurl := hother w hw hid
    show Outcome.reply (if w.url = "https://j" then 204 else 200) "" =
      .reply (if w.url = "https://j" then 500 else 200) ""
    rw [if_neg hurl, if_neg hurl]
  exact ⟨nodup_registered, by decide +kernel, hisolated _ _ _ .empty halike hheard, by decide +kernel⟩

end ContractRisk
