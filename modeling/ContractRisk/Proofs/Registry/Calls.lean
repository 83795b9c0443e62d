import ContractRisk.Proofs.Registry.Catalog

/-!
# Runs of calls

A registry is a map from identifiers to patterns that remembers the order of insertion. `Effect` lists
all that one call can do to it, and `Continues` says what any number of calls come to:

* the identifiers are those from before with those of the patterns that were added, in this order;
* every identifier stands for the pattern that was written last under it.

A `Session` makes calls and takes snapshots in any order, and keeps what came of the calls and what the
snapshots show.

* `Session.run_lawful`   sessions that start with no patterns or with the catalog.
-/

namespace ContractRisk.Registry

variable {α : Type}

/-! ## one call -/

/-- a call that may change a registry; what is registered has been defined before -/
inductive Call (α : Type) where
  | register (p : Pattern α) (defined : ∃ d, Pattern.define d = .ok p)
  | update (id : String) (a : Amendment α)

/-- the pattern that a call writes, or why it is refused -/
abbrev Outcome (α : Type) := Except RegistryFault (Pattern α)

def call (r : Registry α) : Call α → Outcome α × Registry α
  | .register p _ =>
    match r.register p with
    | .ok r' => (.ok p, r')
    | .error f => (.error f, r)
  | .update id a =>
    match r.update id a with
    | .ok (p, r') => (.ok p, r')
    | .error f => (.error f, r)

/-- all that a call may come to -/
inductive Effect (r : Registry α) : Call α → Outcome α → Registry α → Prop
  | added {p : Pattern α} {hp : ∃ d, Pattern.define d = .ok p} : p.id ∉ r.ids →
      Effect r (.register p hp) (.ok p) ⟨r.patterns ++ [p]⟩
  | duplicate {p : Pattern α} {hp : ∃ d, Pattern.define d = .ok p} : p.id ∈ r.ids →
      Effect r (.register p hp) (.error (.duplicate p.id)) r
  | changed {id : String} {a : Amendment α} {q p : Pattern α} : r.get? id = some q →
      a.changesId id = false → a.unknown = [] → Pattern.define (a.apply q) = .ok p → p.id = id →
      Effect r (.update id a) (.ok p) (r.replace p)
  | missing {id : String} {a : Amendment α} : id ∉ r.ids →
      Effect r (.update id a) (.error (.notFound id)) r
  | renamed {id : String} {a : Amendment α} : id ∈ r.ids → a.changesId id = true →
      Effect r (.update id a) (.error .idChange) r
  | unknown {id : String} {a : Amendment α} : id ∈ r.ids → a.changesId id = false →
      a.unknown ≠ [] → Effect r (.update id a) (.error (.unknownFields a.unknown)) r
  | invalid {id : String} {a : Amendment α} {q : Pattern α} {f : PatternFault} :
      r.get? id = some q → a.changesId id = false → a.unknown = [] →
      Pattern.define (a.apply q) = .error f → Effect r (.update id a) (.error (.pattern f)) r

section
variable {r r' : Registry α} {c : Call α} {out : Outcome α}

theorem get?_eq_none {id : String} : r.get? id = none ↔ id ∉ r.ids := by
  rw [← contains_iff, contains, Option.isSome_iff_ne_none, not_not]

theorem mem_ids_of_get? {id : String} {p : Pattern α} (h : r.get? id = some p) : id ∈ r.ids := by
  obtain ⟨hmem, rfl⟩ := get?_eq_some h
  exact List.mem_map_of_mem hmem

theorem call_update (r : Registry α) (id : String) (a : Amendment α) :
    r.call (.update id a) = match r.amended id a with
      | .ok p => (.ok p, r.replace p)
      | .error f => (.error f, r) := by
  simp only [call, update]
  cases r.amended id a <;> rfl

theorem register_of_mem {p : Pattern α} (h : p.id ∈ r.ids) :
    r.register p = .error (.duplicate p.id) := if_pos ((contains_iff r p.id).mpr h)

theorem call_effect (r : Registry α) (c : Call α) : Effect r c (r.call c).1 (r.call c).2 := by
  cases c with
  | register p hp =>
    by_cases h : p.id ∈ r.ids
    · simp only [call, register_of_mem h]
      exact .duplicate h
    · simp only [call, register_eq_ok_iff.mpr ⟨h, rfl⟩]
      exact .added h
  | update id a =>
    rw [call_update, amended]
    cases hq : r.get? id with
    | none => exact .missing (get?_eq_none.mp hq)
    | some q =>
      obtain ⟨_, hid⟩ := get?_eq_some hq
      have hmem : id ∈ r.ids := mem_ids_of_get? hq
      dsimp only
      cases hchanges : a.changesId id with
      | true => exact .renamed hmem hchanges
      | false =>
        by_cases hunknown : a.unknown = []
        · simp only [hunknown, List.isEmpty_nil, Bool.not_true, Bool.false_eq_true, if_false]
          cases hd : Pattern.define (a.apply q) with
          | error f => exact .invalid hq hchanges hunknown hd
          | ok p =>
            have hname := (checkId_eq_ok (Pattern.define_eq_ok_iff.mp hd).id).1
            exact .changed hq hchanges hunknown hd ((Value.text.inj hname).symm.trans hid)
        · have hsome : (!a.unknown.isEmpty) = true := by simpa using hunknown
          simp only [hsome, Bool.false_eq_true, if_false, if_true]
          exact .unknown hmem hchanges hunknown

theorem Effect.refused {f : RegistryFault} (h : Effect r c (.error f) r') : r' = r := by
  cases h <;> rfl

/-- a registry that calls have led to is one of the reachable ones -/
theorem Reachable.call (hr : r.Reachable) (c : Call α) : (r.call c).2.Reachable := by
  cases c with
  | register p hp =>
    obtain ⟨d, hd⟩ := hp
    simp only [Registry.call]
    cases hreg : r.register p with
    | ok r' => exact hr.register hd hreg
    | error f => exact hr
  | update id a =>
    simp only [Registry.call]
    cases hupd : r.update id a with
    | ok x => exact hr.update hupd
    | error f => exact hr

/-! ### look-ups after it -/

theorem Reachable.get?_self (hr : r.Reachable) {p : Pattern α} (hp : p ∈ r.patterns) :
    r.get? p.id = some p := by
  cases hq : r.get? p.id with
  | none => exact absurd (List.mem_map_of_mem hp) (get?_eq_none.mp hq)
  | some q =>
    obtain ⟨hmem, hid⟩ := get?_eq_some hq
    rw [List.inj_on_of_nodup_map hr.nodup_ids hmem hp hid]

theorem get?_append {p : Pattern α} (h : p.id ∉ r.ids) (id : String) :
    (⟨r.patterns ++ [p]⟩ : Registry α).get? id = if p.id = id then some p else r.get? id := by
  have hfind : (⟨r.patterns ++ [p]⟩ : Registry α).get? id =
      (r.get? id).or (if p.id = id then some p else none) := by
    simp [get?, List.find?_append, List.find?_singleton]
  rw [hfind]
  split
  · next hid => rw [get?_eq_none.mpr (hid ▸ h), Option.none_or]
  · rw [Option.or_none]

theorem get?_replace {p : Pattern α} (h : p.id ∈ r.ids) (id : String) :
    (r.replace p).get? id = if p.id = id then some p else r.get? id := by
  have hfind : (r.replace p).get? id = (r.get? id).map fun q => if q.id = p.id then p else q := by
    unfold get? replace
    rw [List.find?_map]
    refine congrArg (Option.map _ <| List.find? · r.patterns) (funext fun q => ?_)
    show ((if q.id = p.id then p else q).id == id) = (q.id == id)
    split
    · next hid => rw [hid]
    · rfl
  rw [hfind]
  cases hq : r.get? id with
  | none =>
    have hne : p.id ≠ id := fun hid => get?_eq_none.mp hq (hid ▸ h)
    rw [if_neg hne, Option.map_none]
  | some q =>
    obtain ⟨_, rfl⟩ := get?_eq_some hq
    rw [Option.map_some]
    by_cases hid : q.id = p.id
    · rw [if_pos hid, if_pos hid.symm]
    · rw [if_neg hid, if_neg (Ne.symm hid)]

/-- what is written is found under its identifier, and nothing else changes -/
theorem Effect.get? (h : Effect r c out r') (id : String) :
    r'.get? id = (out.toOption.filter fun p => p.id = id).or (r.get? id) := by
  have hwritten (p : Pattern α) : (if p.id = id then some p else r.get? id) =
      ((some p).filter fun p => p.id = id).or (r.get? id) := by
    by_cases hid : p.id = id <;> simp [Option.filter, hid]
  cases h with
  | @added p _ hnew => exact (get?_append hnew id).trans (hwritten p)
  | @changed _ _ q p hq _ _ _ hid =>
    exact (get?_replace (hid ▸ mem_ids_of_get? hq) id).trans (hwritten p)
  | _ => rfl

end

/-! ## many calls -/

/-- calls with what came of them -/
abbrev Log (α : Type) := List (Call α × Outcome α)

/-- the patterns that were written -/
def written (log : Log α) : List (Pattern α) := log.filterMap fun e => e.2.toOption

/-- the patterns that were added -/
def added (log : Log α) : List (Pattern α) := log.filterMap fun
  | (.register _ _, out) => out.toOption
  | (.update _ _, _) => none

/-- the last one with an identifier -/
def latest? (ps : List (Pattern α)) (id : String) : Option (Pattern α) :=
  ps.reverse.find? fun p => p.id = id

theorem written_append (l l' : Log α) : written (l ++ l') = written l ++ written l' :=
  List.filterMap_append

theorem added_append (l l' : Log α) : added (l ++ l') = added l ++ added l' :=
  List.filterMap_append

theorem latest?_append (ps qs : List (Pattern α)) (id : String) :
    latest? (ps ++ qs) id = (latest? qs id).or (latest? ps id) := by
  unfold latest?
  rw [List.reverse_append, List.find?_append]

theorem latest?_toList (p : Option (Pattern α)) (id : String) :
    latest? p.toList id = p.filter fun p => p.id = id := by
  cases p with
  | none => rfl
  | some p => by_cases h : p.id = id <;> simp [latest?, Option.filter, h]

/-- what the calls of a log make of a registry -/
structure Continues (r : Registry α) (log : Log α) (r' : Registry α) : Prop where
  ids : r'.ids = r.ids ++ (added log).map (·.id)
  get? : ∀ id, r'.get? id = (latest? (written log) id).or (r.get? id)

theorem Continues.refl (r : Registry α) : Continues r [] r where
  ids := (List.append_nil _).symm
  get? _ := rfl

theorem Continues.trans {r r' r'' : Registry α} {l l' : Log α} (h : Continues r l r')
    (h' : Continues r' l' r'') : Continues r (l ++ l') r'' where
  ids := by rw [h'.ids, h.ids, added_append, List.map_append, List.append_assoc]
  get? id := by rw [h'.get?, h.get?, written_append, latest?_append, Option.or_assoc]

theorem Effect.continues {r r' : Registry α} {c : Call α} {out : Outcome α}
    (h : Effect r c out r') : Continues r [(c, out)] r' where
  ids := by
    cases h with
    | added _ => exact ids_append r _
    | changed _ _ _ _ _ => exact (ids_replace r _).trans (List.append_nil _).symm
    | _ => exact (List.append_nil _).symm
  get? id := by
    have hwritten : written [(c, out)] = out.toOption.toList := by cases out <;> rfl
    rw [hwritten, latest?_toList]
    exact h.get? id

/-- makes calls one after the other -/
def run (r : Registry α) : List (Call α) → Log α × Registry α
  | [] => ([], r)
  | c :: cs =>
    let (out, r) := r.call c
    let (log, r) := r.run cs
    ((c, out) :: log, r)

theorem run_append (r : Registry α) (cs cs' : List (Call α)) :
    r.run (cs ++ cs') = ((r.run cs).1 ++ ((r.run cs).2.run cs').1, ((r.run cs).2.run cs').2) := by
  induction cs generalizing r with
  | nil => rfl
  | cons c cs ih =>
    show (_ :: ((r.call c).2.run (cs ++ cs')).1, ((r.call c).2.run (cs ++ cs')).2) = _
    rw [ih]
    rfl

theorem run_continues (r : Registry α) (cs : List (Call α)) :
    Continues r (r.run cs).1 (r.run cs).2 := by
  induction cs generalizing r with
  | nil => exact .refl r
  | cons c cs ih => exact (call_effect r c).continues.trans (ih (r.call c).2)

theorem Reachable.run {r : Registry α} (hr : r.Reachable) (cs : List (Call α)) :
    (r.run cs).2.Reachable := by
  induction cs generalizing r with
  | nil => exact hr
  | cons c cs ih => exact ih (hr.call c)

/-! ## sessions -/

/-- a registry in use -/
structure Session (α : Type) where
  registry : Registry α
  log : Log α
  /-- what the snapshots show -/
  taken : List (List (Pattern α))

namespace Session

inductive Act (α : Type) where
  | call (c : Call α)
  | snapshot

def start (r : Registry α) : Session α := ⟨r, [], []⟩

def perform (s : Session α) : Act α → Session α
  | .call c =>
    let (out, registry) := s.registry.call c
    { s with registry, log := s.log ++ [(c, out)] }
  | .snapshot => { s with taken := s.taken ++ [s.registry.patterns] }

def run (s : Session α) (acts : List (Act α)) : Session α := acts.foldl perform s

theorem run_append (s : Session α) (acts acts' : List (Act α)) :
    s.run (acts ++ acts') = (s.run acts).run acts' := List.foldl_append

/-- `s'` is `s` after some acts: the log and the snapshots have grown, and the registry has changed by
the new part of the log alone -/
structure Grows (s s' : Session α) : Prop where
  log : ∃ log, s'.log = s.log ++ log ∧ Continues s.registry log s'.registry
  taken : s.taken <+: s'.taken

theorem perform_grows (s : Session α) (act : Act α) : s.Grows (s.perform act) := by
  cases act with
  | call c => exact ⟨⟨_, rfl, (call_effect s.registry c).continues⟩, List.prefix_rfl⟩
  | snapshot => exact ⟨⟨[], (List.append_nil _).symm, .refl _⟩, List.prefix_append _ _⟩

theorem run_grows (s : Session α) (acts : List (Act α)) : s.Grows (s.run acts) := by
  induction acts generalizing s with
  | nil => exact ⟨⟨[], (List.append_nil _).symm, .refl _⟩, List.prefix_rfl⟩
  | cons act acts ih =>
    obtain ⟨⟨l, hl, hc⟩, ht⟩ := s.perform_grows act
    obtain ⟨⟨l', hl', hc'⟩, ht'⟩ := ih (s.perform act)
    exact ⟨⟨l ++ l', by rw [← List.append_assoc, ← hl]; exact hl', hc.trans hc'⟩, ht.trans ht'⟩

theorem run_reachable {s : Session α} (hs : s.registry.Reachable) (acts : List (Act α)) :
    (s.run acts).registry.Reachable := by
  induction acts generalizing s with
  | nil => exact hs
  | cons act acts ih =>
    refine ih ?_
    cases act with
    | call c => exact hs.call c
    | snapshot => exact hs

/-- what a call in the middle of a session does and leaves in the log -/
theorem run_call (s : Session α) (before after : List (Act α)) (c : Call α) :
    let t := s.run before
    ∃ out, (s.run (before ++ .call c :: after)).log[t.log.length]? = some (c, out) ∧
      Effect t.registry c out (s.run (before ++ [.call c])).registry := by
  intro t
  refine ⟨(t.registry.call c).1, ?_, ?_⟩
  · obtain ⟨⟨l, hl, _⟩, _⟩ := (t.perform (.call c)).run_grows after
    rw [run_append]
    show ((t.perform (.call c)).run after).log[t.log.length]? = _
    rw [hl, show (t.perform (.call c)).log = t.log ++ [(c, (t.registry.call c).1)] from rfl]
    simp
  · rw [run_append]
    exact call_effect t.registry c

/-- what a snapshot shows is kept until the end of a session -/
theorem run_snapshot (s : Session α) (before after : List (Act α)) :
    let t := s.run before
    let s' := s.run (before ++ .snapshot :: after)
    s'.taken[t.taken.length]? = some t.registry.patterns ∧ t.registry.ids <+: s'.registry.ids := by
  intro t s'
  obtain ⟨⟨l, _, hc⟩, rest, hrest⟩ := (t.perform .snapshot).run_grows after
  have hs' : s' = (t.perform .snapshot).run after := s.run_append before (.snapshot :: after)
  refine ⟨?_, hs' ▸ ⟨_, hc.ids.symm⟩⟩
  rw [hs', ← hrest, show (t.perform .snapshot).taken = t.taken ++ [t.registry.patterns] from rfl]
  simp

/-- **Registries are maps in the order of insertion.** -/
theorem run_lawful [Scalar α] (r : Registry α) (hr : r = .empty ∨ r = ⟨Catalog.patterns⟩)
    (acts : List (Act α)) :
    let s := (start r).run acts
    s.registry.ids.Nodup ∧
    (∀ p ∈ s.registry.patterns, s.registry.get? p.id = some p ∧ p.Sound) ∧
    Continues r s.log s.registry ∧
    (∀ before c after, acts = before ++ .call c :: after →
      let t := (start r).run before
      let t' := (start r).run (before ++ [.call c])
      ∃ out, s.log[t.log.length]? = some (c, out) ∧ Effect t.registry c out t'.registry ∧
        ∀ f, out = .error f → t'.registry = t.registry) ∧
    ∀ before after, acts = before ++ .snapshot :: after →
      let t := (start r).run before
      s.taken[t.taken.length]? = some t.registry.patterns ∧
        t.registry.ids <+: s.registry.ids := by
  intro s
  have hstart : r.Reachable := by
    rcases hr with rfl | rfl
    · exact .empty
    · exact Catalog.reachable
  have hs : s.registry.Reachable := run_reachable hstart acts
  refine ⟨hs.nodup_ids, fun p hp => ?_, ?_, ?_, ?_⟩
  · obtain ⟨d, hd⟩ := hs.defined p hp
    exact ⟨hs.get?_self hp, hd.sound⟩
  · obtain ⟨⟨l, hl, hc⟩, _⟩ := (start r).run_grows acts
    exact hl ▸ hc
  · rintro before c after rfl
    obtain ⟨out, hlog, heffect⟩ := (start r).run_call before after c
    exact ⟨out, hlog, heffect, fun f hf => (hf ▸ heffect).refused⟩
  · rintro before after rfl
    exact (start r).run_snapshot before after

/-- the first two entries of the catalog: one is registered, shown, refused, and changed before the
other is registered -/
def sampleActs : List (Act Float) :=
  let first : Call Float := .register Catalog.patterns[0] (Catalog.defined (List.getElem_mem _))
  let second : Call Float := .register Catalog.patterns[1] (Catalog.defined (List.getElem_mem _))
  let change : Call Float := .update "HP001" ⟨[("confidence", .int 50)], none⟩
  [.call first, .snapshot, .call first, .call change, .call second]

theorem run_lawful_refusal :
    let s := (start .empty).run sampleActs
    s.registry.ids = ["HP001", "HP002"] ∧
      (s.registry.get? "HP001").map (·.confidence) = some 50 ∧
      (s.taken[0]?.map fun ps => ps.map (·.confidence)) = some [95] ∧
      ∀ p ∈ s.registry.patterns, p.Sound := by
  intro s
  obtain ⟨_, hpatterns, hc, _, hsnapshots⟩ := run_lawful .empty (.inl rfl) sampleActs
  refine ⟨?_, ?_, ?_, fun p hp => (hpatterns p hp).2⟩
  · rw [hc.ids]
    decide +kernel
  · rw [hc.get?]
    decide +kernel
  · obtain ⟨hshown, _⟩ := hsnapshots [_] _ rfl
    rw [show s.taken[0]? = _ from hshown]
    decide +kernel

end Session

end ContractRisk.Registry
