import ContractRisk.Proofs.Pattern.Definition
import ContractRisk.Registry
import Mathlib.Data.List.Nodup

/-!
# Reachable registries

A registry is reachable if it comes from the empty one by registering patterns that passed their
definition and by updates, in any order. In such a registry

* `Reachable.nodup_ids`   the identifiers are pairwise distinct;
* `Reachable.defined`     every pattern has passed its definition, also after updates.
-/

namespace ContractRisk.Registry

variable {α : Type}

/-! ## one step -/

theorem ids_append (r : Registry α) (ps : List (Pattern α)) :
    (⟨r.patterns ++ ps⟩ : Registry α).ids = r.ids ++ ps.map (·.id) := List.map_append

theorem ids_replace (r : Registry α) (p : Pattern α) : (r.replace p).ids = r.ids := by
  unfold replace ids
  rw [List.map_map]
  refine List.map_congr_left fun q _ => ?_
  show (if q.id = p.id then p else q).id = q.id
  split
  · next h => exact h.symm
  · rfl

theorem contains_iff (r : Registry α) (id : String) : r.contains id = true ↔ id ∈ r.ids := by
  unfold contains get? ids
  rw [List.find?_isSome, List.mem_map]
  simp only [beq_iff_eq]

theorem register_eq_ok_iff {r r' : Registry α} {p : Pattern α} :
    r.register p = .ok r' ↔ p.id ∉ r.ids ∧ r' = ⟨r.patterns ++ [p]⟩ := by
  unfold register
  by_cases h : p.id ∈ r.ids
  · rw [if_pos ((contains_iff r p.id).mpr h)]
    exact ⟨fun h' => (nomatch h'), fun h' => absurd h h'.1⟩
  · rw [if_neg (mt (contains_iff r p.id).mp h)]
    exact ⟨fun h' => ⟨h, by cases h'; rfl⟩, fun h' => by rw [h'.2]⟩

theorem get?_eq_some {r : Registry α} {id : String} {p : Pattern α} (h : r.get? id = some p) :
    p ∈ r.patterns ∧ p.id = id :=
  ⟨List.mem_of_find?_eq_some h, by simpa using List.find?_some h⟩

/-- what an update does if it does anything: one pattern is defined anew under its old identifier -/
theorem update_eq_ok {r r' : Registry α} {id : String} {a : Amendment α} {p : Pattern α}
    (h : r.update id a = .ok (p, r')) :
    ∃ q ∈ r.patterns, q.id = id ∧ Pattern.Defines (a.apply q) p ∧ p.id = id ∧ r' = r.replace p := by
  unfold update at h
  split at h
  · next p' hp =>
    cases h
    unfold amended at hp
    split at hp
    · cases hp
    · next q hq =>
      obtain ⟨hmem, hid⟩ := get?_eq_some hq
      split at hp
      · cases hp
      · split at hp
        · cases hp
        · cases hd : Pattern.define (a.apply q) with
          | error f => rw [hd] at hp; cases hp
          | ok p'' =>
            rw [hd] at hp
            cases hp
            have hdef := Pattern.define_eq_ok_iff.mp hd
            have hname := (checkId_eq_ok hdef.id).1
            exact ⟨q, hmem, hid, hdef, (Value.text.inj hname).symm.trans hid, rfl⟩
  · cases h

/-! ## all steps -/

/-- the registries that registering and updating lead to -/
inductive Reachable : Registry α → Prop
  | empty : Reachable empty
  | register {r r' : Registry α} {d : Draft α} {p : Pattern α} : Reachable r →
      Pattern.define d = .ok p → r.register p = .ok r' → Reachable r'
  | update {r r' : Registry α} {id : String} {a : Amendment α} {p : Pattern α} : Reachable r →
      r.update id a = .ok (p, r') → Reachable r'

namespace Reachable

theorem nodup_ids {r : Registry α} (h : Reachable r) : r.ids.Nodup := by
  induction h with
  | empty => exact List.nodup_nil
  | @register r r' d p _ _ hr ih =>
    obtain ⟨hnew, rfl⟩ := register_eq_ok_iff.mp hr
    rw [ids_append]
    exact ih.append (List.nodup_singleton p.id) (by simpa using hnew)
  | update _ hu ih =>
    obtain ⟨_, _, _, _, _, rfl⟩ := update_eq_ok hu
    rwa [ids_replace]

theorem defined {r : Registry α} (h : Reachable r) :
    ∀ p ∈ r.patterns, ∃ d, Pattern.Defines d p := by
  induction h with
  | empty => exact fun _ hp => (nomatch hp)
  | @register r r' d p _ hd hr ih =>
    obtain ⟨_, rfl⟩ := register_eq_ok_iff.mp hr
    intro q hq
    rcases List.mem_append.mp hq with hq | hq
    · exact ih q hq
    · rw [List.mem_singleton.mp hq]
      exact ⟨d, Pattern.define_eq_ok_iff.mp hd⟩
  | @update r r' id a p _ hu ih =>
    obtain ⟨q, _, _, hd, _, rfl⟩ := update_eq_ok hu
    intro k hk
    obtain ⟨k', hk', rfl⟩ := List.mem_map.mp hk
    split
    · exact ⟨_, hd⟩
    · exact ih k' hk'

/-- registering one defined pattern after the other stays among the reachable registries -/
theorem registerEach {r r' : Registry α} {ps : List (Pattern α)} {f : Option RegistryFault}
    (h : Reachable r) (hps : ∀ p ∈ ps, ∃ d, Pattern.define d = .ok p)
    (he : r.registerEach ps = (f, r')) : Reachable r' := by
  induction ps generalizing r with
  | nil => cases he; exact h
  | cons p ps ih =>
    unfold Registry.registerEach at he
    cases hp : r.register p with
    | error g => rw [hp] at he; cases he; exact h
    | ok r'' =>
      rw [hp] at he
      obtain ⟨d, hd⟩ := hps p List.mem_cons_self
      exact ih (h.register hd hp) (fun q hq => hps q (List.mem_cons_of_mem p hq)) he

end Reachable

/-- patterns with new identifiers are all registered -/
theorem registerEach_append (r : Registry α) (ps : List (Pattern α))
    (h : (⟨r.patterns ++ ps⟩ : Registry α).ids.Nodup) :
    r.registerEach ps = (none, ⟨r.patterns ++ ps⟩) := by
  induction ps generalizing r with
  | nil => rw [List.append_nil]; rfl
  | cons p ps ih =>
    have hp : r.register p = .ok ⟨r.patterns ++ [p]⟩ := by
      refine register_eq_ok_iff.mpr ⟨fun hmem => ?_, rfl⟩
      rw [ids_append] at h
      exact (List.nodup_append.mp h).2.2 _ hmem _ List.mem_cons_self rfl
    have hall : r.patterns ++ p :: ps = (r.patterns ++ [p]) ++ ps := by simp
    rw [hall] at h ⊢
    unfold Registry.registerEach
    rw [hp]
    exact ih _ h

/-- any list of defined patterns with distinct identifiers makes a reachable registry -/
theorem reachable_of_nodup {ps : List (Pattern α)} (h : (ps.map (·.id)).Nodup)
    (hps : ∀ p ∈ ps, ∃ d, Pattern.define d = .ok p) : Reachable ⟨ps⟩ :=
  Reachable.empty.registerEach hps (registerEach_append empty ps h)

end ContractRisk.Registry
