import ContractRisk.Proofs.Registry.Amendments
import ContractRisk.Proofs.Scan.Course
import Mathlib.Data.List.Flatten
import Mathlib.Data.List.Perm.Basic

/-!
# Listings and counts

The patterns of a registry are listed by category and by severity, and counted by both. Each is a matter of
one key of a pattern (`share`, `tally`): a list has the patterns of its key, in the order of registration,
and a count stands for a list that is not empty.

* `share_perm`, `sum_tally`   the lists of all keys together are the patterns, and the counts add up to
  their number;
* `Moves.of_replaced`         a pattern that takes the place of another one leaves the list of the old key
  for that of the new one;
* `listings_partition`        registries in use, and the statistics of an engine on one.
-/

namespace ContractRisk.Registry

/-! ## lists and counts by a key -/

section
variable {β κ : Type} [DecidableEq κ] (key : β → κ)

/-- the items with a key -/
def share (xs : List β) (k : κ) : List β := xs.filter fun x => key x == k

/-- how many items each key has, in the order in which the keys first occur -/
def tally (xs : List β) : List (κ × Nat) :=
  (xs.map key).eraseDups.map fun k => (k, (share key xs k).length)

theorem mem_share {xs : List β} {k : κ} {x : β} : x ∈ share key xs k ↔ x ∈ xs ∧ key x = k := by
  rw [share, List.mem_filter, beq_iff_eq]

theorem share_cons (x : β) (xs : List β) (k : κ) :
    share key (x :: xs) k = (if key x = k then [x] else []) ++ share key xs k := by
  unfold share
  rw [List.filter_cons]
  by_cases h : key x = k <;> simp [h]

theorem share_split (before : List β) (x : β) (after : List β) (k : κ) :
    share key (before ++ x :: after) k =
      share key before k ++ (if key x = k then [x] else []) ++ share key after k := by
  rw [share, List.filter_append, List.append_assoc, ← share_cons]
  rfl

/-- of distinct keys, one is the key of an item -/
theorem flatMap_own_key {keys : List κ} (hkeys : keys.Nodup) {x : β} (hx : key x ∈ keys) :
    (keys.flatMap fun k => if key x = k then [x] else []) = [x] := by
  obtain ⟨before, after, rfl⟩ := List.append_of_mem hx
  obtain ⟨_, hafter, hbefore⟩ := List.nodup_append.mp hkeys
  have hnone (ks : List κ) (hks : key x ∉ ks) :
      (ks.flatMap fun k => if key x = k then [x] else []) = [] :=
    List.flatMap_eq_nil_iff.mpr fun k hk => if_neg fun (h : key x = k) => hks (h ▸ hk)
  rw [List.flatMap_append, List.flatMap_cons, if_pos rfl,
    hnone before fun h => hbefore _ h _ List.mem_cons_self rfl,
    hnone after (List.nodup_cons.mp hafter).1]
  rfl

open scoped List in
/-- the lists of all keys together are a reordering of the items -/
theorem share_perm {keys : List κ} (hkeys : keys.Nodup) {xs : List β} (hall : ∀ x ∈ xs, key x ∈ keys) :
    (keys.flatMap (share key xs)).Perm xs := by
  induction xs with
  | nil => exact .of_eq (List.flatMap_eq_nil_iff.mpr fun _ _ => rfl)
  | cons x xs ih =>
    obtain ⟨hx, hxs⟩ := List.forall_mem_cons.mp hall
    calc keys.flatMap (share key (x :: xs))
      _ = keys.flatMap fun k => (if key x = k then [x] else []) ++ share key xs k :=
          List.flatMap_congr fun k _ => share_cons key x xs k
      _ ~ (keys.flatMap fun k => if key x = k then [x] else []) ++ keys.flatMap (share key xs) :=
          (List.flatMap_append_perm keys _ _).symm
      _ = x :: keys.flatMap (share key xs) := by rw [flatMap_own_key key hkeys hx, List.singleton_append]
      _ ~ x :: xs := (ih hxs).cons x

theorem nodup_eraseDups (ks : List κ) : ks.eraseDups.Nodup := by
  match ks with
  | [] => simp
  | k :: ks =>
    rw [List.eraseDups_cons, List.nodup_cons, List.mem_eraseDups]
    exact ⟨by simp, nodup_eraseDups _⟩
termination_by ks.length
decreasing_by exact Nat.lt_succ_of_le (List.length_filter_le ..)

theorem tally_keys (xs : List β) : (tally key xs).map Prod.fst = (xs.map key).eraseDups := by
  unfold tally
  rw [List.map_map]
  exact List.map_id _

theorem mem_tally {xs : List β} {k : κ} {n : Nat} :
    (k, n) ∈ tally key xs ↔ n = (share key xs k).length ∧ share key xs k ≠ [] := by
  have hthere : k ∈ (xs.map key).eraseDups ↔ share key xs k ≠ [] := by
    rw [List.mem_eraseDups, List.mem_map, ne_eq, List.eq_nil_iff_forall_not_mem]
    simp only [mem_share, not_forall, not_not]
  unfold tally
  rw [List.mem_map, ← hthere]
  constructor
  · rintro ⟨_, hk, ⟨⟩⟩
    exact ⟨rfl, hk⟩
  · rintro ⟨rfl, hk⟩
    exact ⟨k, hk, rfl⟩

/-- the counts add up to the number of items -/
theorem sum_tally (xs : List β) : ((tally key xs).map Prod.snd).sum = xs.length := by
  have hkeys : ∀ x ∈ xs, key x ∈ (xs.map key).eraseDups :=
    fun x hx => List.mem_eraseDups.mpr (List.mem_map_of_mem hx)
  rw [← (share_perm key (nodup_eraseDups _) hkeys).length_eq, List.length_flatMap, tally, List.map_map]
  rfl

/-- the lists of the keys before and after an item has been put in the place of another one: the old item
has left the list of its key, and the new one stands in the list of its own, while the rest stays -/
def Moves (list list' : κ → List β) (old new : β) : Prop :=
  ∀ k, ∃ front back, list k = front ++ (if key old = k then [old] else []) ++ back ∧
    list' k = front ++ (if key new = k then [new] else []) ++ back

theorem Moves.of_replaced (before after : List β) (old new : β) :
    Moves key (share key (before ++ old :: after)) (share key (before ++ new :: after)) old new :=
  fun k => ⟨_, _, share_split key before old after k, share_split key before new after k⟩

/-- the lists of all keys divide the items, and the counts are those of the lists that are not empty -/
structure Partitions (keys : List κ) (xs : List β) (list : κ → List β) (counts : List (κ × Nat)) :
    Prop where
  whole : (keys.flatMap list).Perm xs
  ordered : ∀ k, (list k).Sublist xs
  mem : ∀ k x, x ∈ list k ↔ x ∈ xs ∧ key x = k
  distinct : (counts.map Prod.fst).Nodup
  counted : ∀ k n, (k, n) ∈ counts ↔ n = (list k).length ∧ list k ≠ []
  total : (counts.map Prod.snd).sum = xs.length

theorem Partitions.of_share {keys : List κ} (hkeys : keys.Nodup) {xs : List β}
    (hall : ∀ x ∈ xs, key x ∈ keys) : Partitions key keys xs (share key xs) (tally key xs) where
  whole := share_perm key hkeys hall
  ordered _ := List.filter_sublist
  mem _ _ := mem_share key
  distinct := tally_keys key xs ▸ nodup_eraseDups _
  counted _ _ := mem_tally key
  total := sum_tally key xs

end

/-! ## the listings of a registry -/

variable {α : Type}

theorem partitions_category (r : Registry α) :
    Partitions Pattern.category Category.all r.patterns r.ofCategory r.countByCategory :=
  .of_share _ (by decide) fun p _ => Category.mem_all p.category

theorem partitions_severity (r : Registry α) :
    Partitions Pattern.severity Severity.all r.patterns r.ofSeverity r.countBySeverity :=
  .of_share _ (by decide) fun p _ => Severity.mem_all p.severity

/-- an update that succeeds replaces the pattern with its identifier and nothing else -/
theorem Effect.replaced {r r' : Registry α} (hr : r.Reachable) {id : String} {a : Amendment α}
    {p : Pattern α} (h : Effect r (.update id a) (.ok p) r') :
    ∃ q before after, r.get? id = some q ∧ p.id = id ∧ r.patterns = before ++ q :: after ∧
      r'.patterns = before ++ p :: after := by
  cases h with
  | @changed _ _ q _ hq _ _ _ hid =>
    obtain ⟨hmem, hname⟩ := get?_eq_some hq
    obtain ⟨before, after, hsplit, hreplace⟩ := hr.replace_eq hmem (hid.trans hname.symm)
    exact ⟨q, before, after, hq, hid, hsplit, congrArg patterns hreplace⟩

/-- **Listings divide the registry.** For every registry in use and every engine on it: the lists of all
categories together are a reordering of the patterns, each is in the order of registration and has the
patterns of its category, and the statistics count those that are not empty and add up to the number of
patterns; severities alike. An update that succeeds takes the old pattern out of the lists of its category
and its severity and puts the new one into those of its own, and no total changes. -/
theorem listings_partition [Scalar α] {r₀ : Registry α} (hr : r₀.Reachable) (cs : List (Call α))
    (e : Engine α) (he : e.hub.registry = (r₀.run cs).2) :
    let r := e.hub.registry
    e.stats.patterns = r.patterns.length ∧
    Partitions Pattern.category Category.all r.patterns r.ofCategory e.stats.byCategory ∧
    Partitions Pattern.severity Severity.all r.patterns r.ofSeverity e.stats.bySeverity ∧
    ∀ id a p, (r.call (.update id a)).1 = .ok p →
      let r' := (r.call (.update id a)).2
      let stats' := (e.withRegistry r').stats
      ∃ q, r.get? id = some q ∧ r'.get? id = some p ∧
        Moves Pattern.category r.ofCategory r'.ofCategory q p ∧
        Moves Pattern.severity r.ofSeverity r'.ofSeverity q p ∧
        stats'.patterns = e.stats.patterns ∧
        (stats'.byCategory.map Prod.snd).sum = (e.stats.byCategory.map Prod.snd).sum ∧
        (stats'.bySeverity.map Prod.snd).sum = (e.stats.bySeverity.map Prod.snd).sum := by
  intro r
  have hreachable : e.hub.registry.Reachable := by
    rw [he]
    exact hr.run cs
  refine ⟨rfl, partitions_category r, partitions_severity r, fun id a p hp => ?_⟩
  intro r' stats'
  have heffect : Effect r (.update id a) (.ok p) r' := hp ▸ call_effect r (.update id a)
  obtain ⟨q, before, after, hq, hid, hold, hnew⟩ := heffect.replaced hreachable
  have hget : r'.get? id = some p := by
    rw [heffect.get? id]
    simp [Except.toOption, Option.filter, hid]
  have hlength : r'.patterns.length = r.patterns.length := by
    rw [hold, hnew, List.length_append, List.length_append]
    rfl
  refine ⟨q, hq, hget, ?_, ?_, hlength, ?_, ?_⟩
  · show Moves _ (share _ r.patterns) (share _ r'.patterns) q p
    rw [hold, hnew]
    exact .of_replaced _ before after q p
  · show Moves _ (share _ r.patterns) (share _ r'.patterns) q p
    rw [hold, hnew]
    exact .of_replaced _ before after q p
  · exact (partitions_category r').total.trans (hlength.trans (partitions_category r).total.symm)
  · exact (partitions_severity r').total.trans (hlength.trans (partitions_severity r).total.symm)

/-- the third entry of the catalog, a high honeypot, becomes low phishing, and then something unheard of -/
def relisted : List (Call Float) :=
  [.update "HP003" ⟨[("category", .text "phishing"), ("severity", .text "low")], none⟩,
    .update "HP003" ⟨[("severity", .text "dire")], none⟩]

theorem listings_partition_relisted :
    let e := Sample.engine ((⟨Catalog.patterns⟩ : Registry Float).run relisted).2.patterns []
    let back : Call Float := .update "HP003" ⟨[("category", .text "honeypot")], none⟩
    e.stats.patterns = 14 ∧ (e.stats.byCategory.map Prod.snd).sum = 14 ∧
      (.honeypot, 2) ∈ e.stats.byCategory ∧ (.low, 1) ∈ e.stats.bySeverity ∧
      ∃ q p, q.category = .phishing ∧ p.category = .honeypot ∧
        Moves Pattern.category e.hub.registry.ofCategory (e.hub.registry.call back).2.ofCategory q p := by
  intro e back
  obtain ⟨hsize, hcategory, hseverity, hupdates⟩ :=
    listings_partition (Catalog.reachable (α := Float)) relisted e rfl
  have hlength : e.hub.registry.patterns.length = 14 := by decide +kernel
  have hhoneypots : (e.hub.registry.ofCategory .honeypot).length = 2 := by decide +kernel
  have hlow : (e.hub.registry.ofSeverity .low).length = 1 := by decide +kernel
  refine ⟨hsize.trans hlength, hcategory.total.trans hlength,
    (hcategory.counted _ _).mpr ⟨hhoneypots.symm, ?_⟩, (hseverity.counted _ _).mpr ⟨hlow.symm, ?_⟩, ?_⟩
  · exact List.ne_nil_of_length_eq_add_one hhoneypots
  · exact List.ne_nil_of_length_eq_add_one hlow
  · have hold : (e.hub.registry.get? "HP003").map (·.category) = some .phishing := by decide +kernel
    have hnew : (e.hub.registry.call back).1.toOption.any (·.category = .honeypot) = true := by
      decide +kernel
    obtain ⟨p, hp, hhoneypot⟩ := exists_ok_of_any hnew
    obtain ⟨q, hq, _, hmoves, _⟩ := hupdates "HP003" _ p hp
    rw [hq] at hold
    exact ⟨q, p, Option.some.inj hold, of_decide_eq_true hhoneypot, hmoves⟩

end ContractRisk.Registry
