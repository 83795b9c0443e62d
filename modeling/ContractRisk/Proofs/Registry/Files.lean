import ContractRisk.Engine
import ContractRisk.Proofs.Pattern.File
import ContractRisk.Proofs.Registry.Calls

/-!
# What a file of patterns leaves in a registry

A file is read as a whole: a single entry that is malformed refuses all of it. But its patterns are then
registered one after the other, and the first whose identifier is taken, in the registry or earlier in
the file, ends this with those before it in their place (`registerEach_cases`). So making an engine either
adds all patterns of the file, or fails and leaves the registry with a part of them:

* `Engine.ofSettings_outcome`   the outcomes, with what the registry holds after each.
-/

namespace ContractRisk
open Text.Utf8 (bytes_append bytes_ofList)

variable {α : Type}

/-! ## patterns in a row -/

namespace Registry

/-- the patterns can be registered one after the other: no identifier is taken, and none occurs twice -/
def Admits (r : Registry α) (ps : List (Pattern α)) : Prop :=
  (∀ p ∈ ps, p.id ∉ r.ids) ∧ (ps.map (·.id)).Nodup

theorem admits_nil (r : Registry α) : r.Admits [] := ⟨nofun, List.nodup_nil⟩

/-- the identifiers that are taken once the first pattern is registered -/
theorem admits_cons {r : Registry α} {p : Pattern α} {ps : List (Pattern α)} :
    r.Admits (p :: ps) ↔ p.id ∉ r.ids ∧ (⟨r.patterns ++ [p]⟩ : Registry α).Admits ps := by
  unfold Admits
  rw [ids_append, List.map_cons, List.nodup_cons, List.forall_mem_cons]
  simp only [List.map_cons, List.map_nil, List.mem_append, List.mem_singleton, List.mem_map, not_or,
    not_exists, not_and]
  constructor
  · rintro ⟨⟨hp, hnew⟩, hfirst, hdistinct⟩
    exact ⟨hp, fun q hq => ⟨hnew q hq, hfirst q hq⟩, hdistinct⟩
  · rintro ⟨hp, hnew, hdistinct⟩
    exact ⟨⟨hp, fun q hq => (hnew q hq).1⟩, fun q hq => (hnew q hq).2, hdistinct⟩

/-- `p` is the first of the patterns whose identifier is taken -/
structure Stops (r : Registry α) (ps done : List (Pattern α)) (p : Pattern α) : Prop where
  split : ∃ rest, ps = done ++ p :: rest
  admits : r.Admits done
  taken : p.id ∈ r.ids ++ done.map (·.id)

theorem Stops.cons {r : Registry α} {q p : Pattern α} {ps done : List (Pattern α)} (hq : q.id ∉ r.ids)
    (h : (⟨r.patterns ++ [q]⟩ : Registry α).Stops ps done p) : r.Stops (q :: ps) (q :: done) p where
  split := by
    obtain ⟨rest, rfl⟩ := h.split
    exact ⟨rest, rfl⟩
  admits := admits_cons.mpr ⟨hq, h.admits⟩
  taken := by
    have htaken := h.taken
    rwa [ids_append, List.append_assoc] at htaken

/-- patterns in a row are all registered, or those before the first whose identifier is taken -/
theorem registerEach_cases (r : Registry α) (ps : List (Pattern α)) :
    (r.Admits ps ∧ r.registerEach ps = (none, ⟨r.patterns ++ ps⟩)) ∨
    ∃ done p, r.Stops ps done p ∧
      r.registerEach ps = (some (.duplicate p.id), ⟨r.patterns ++ done⟩) := by
  induction ps generalizing r with
  | nil =>
    have hall : r.registerEach [] = (none, ⟨r.patterns ++ []⟩) := by
      rw [List.append_nil]
      rfl
    exact .inl ⟨admits_nil r, hall⟩
  | cons p ps ih =>
    by_cases hp : p.id ∈ r.ids
    · have hstop : r.registerEach (p :: ps) = (some (.duplicate p.id), ⟨r.patterns ++ []⟩) := by
        rw [registerEach, register_of_mem hp, List.append_nil]
      have htaken : p.id ∈ r.ids ++ List.map (·.id) ([] : List (Pattern α)) :=
        List.mem_append_left _ hp
      exact .inr ⟨[], p, ⟨⟨ps, rfl⟩, admits_nil r, htaken⟩, hstop⟩
    · have hstep : r.registerEach (p :: ps) =
          (⟨r.patterns ++ [p]⟩ : Registry α).registerEach ps := by
        rw [registerEach, register_eq_ok_iff.mpr ⟨hp, rfl⟩]
      have hjoin (qs : List (Pattern α)) : r.patterns ++ [p] ++ qs = r.patterns ++ p :: qs :=
        List.append_assoc ..
      rw [hstep]
      rcases ih ⟨r.patterns ++ [p]⟩ with ⟨hadmits, heq⟩ | ⟨done, q, hstops, heq⟩
      · exact .inl ⟨admits_cons.mpr ⟨hp, hadmits⟩, heq.trans (by rw [hjoin])⟩
      · exact .inr ⟨p :: done, q, hstops.cons hp, heq.trans (by rw [hjoin])⟩

end Registry

/-! ## engines on a registry -/

/-- the patterns that settings add: one for each entry of the file that they name, in the order of the
file -/
inductive Settings.Adds (x : Settings α) (files : FileTree) (m : Machine) : List (Pattern α) → Prop
  | none : x.customPatterns = "" → Adds x files m []
  | file {entries : List Value} {ps : List (Pattern α)} : x.customPatterns ≠ "" →
      Pattern.Contains m files x.customPatterns entries →
      List.Forall₂ (Pattern.Reads m) entries ps → Adds x files m ps

namespace Engine

/-- adding the patterns of settings is reading all of them and then registering them in a row -/
theorem addCustom_cases (x : Settings α) (files : FileTree) (r : Registry α) (m : Machine) :
    (∃ ps notes, x.Adds files m ps ∧ r.Admits ps ∧
      addCustom x files r m = (.ok notes, ⟨r.patterns ++ ps⟩)) ∨
    (∃ f, (∀ ps, ¬ x.Adds files m ps) ∧ addCustom x files r m = (.error (.file x.customPatterns f), r)) ∨
    ∃ ps done p, x.Adds files m ps ∧ r.Stops ps done p ∧
      addCustom x files r m = (.error (.registry (.duplicate p.id)), ⟨r.patterns ++ done⟩) := by
  unfold addCustom
  by_cases hpath : x.customPatterns = ""
  · have hnothing : (if x.customPatterns.isEmpty then (.ok [], r) else
        addFile files x.customPatterns r m : Except EngineFault Diary × Registry α) =
          (.ok [], ⟨r.patterns ++ []⟩) := by
      rw [if_pos (String.isEmpty_iff.mpr hpath), List.append_nil]
    exact .inl ⟨[], [], .none hpath, Registry.admits_nil r, hnothing⟩
  · rw [if_neg (mt String.isEmpty_iff.mp hpath)]
    unfold addFile
    cases hload : (Pattern.load files x.customPatterns m : Except PatternFileFault (List (Pattern α))) with
    | error f =>
      refine .inr (.inl ⟨f, fun ps hadds => ?_, rfl⟩)
      cases hadds with
      | none hempty => exact hpath hempty
      | file _ hentries hreads =>
        have hok := Pattern.load_eq_ok_iff.mpr ⟨_, hentries, hreads⟩
        exact nomatch hload.symm.trans hok
    | ok ps =>
      obtain ⟨entries, hentries, hreads⟩ := Pattern.load_eq_ok_iff.mp hload
      have hadds : x.Adds files m ps := .file hpath hentries hreads
      rcases r.registerEach_cases ps with ⟨hadmits, heq⟩ | ⟨done, p, hstops, heq⟩
      · refine .inl ⟨ps, [Pattern.loadNote ps.length x.customPatterns], hadds, hadmits, ?_⟩
        dsimp only
        rw [heq]
      · refine .inr (.inr ⟨ps, done, p, hadds, hstops, ?_⟩)
        dsimp only
        rw [heq]

variable [Scalar α]

section
variable {x : Settings α} {files : FileTree} {r r' : Registry α} {m : Machine}
  (detectors : Option (List (Detector α (Hub α)))) (supply : Supply) (now : α)

theorem ofSettings_of_error {f : EngineFault} (h : addCustom x files r m = (.error f, r')) :
    ofSettings x detectors files supply now r m = (.error f, r') := by
  rw [ofSettings, h]

theorem ofSettings_of_ok {notes : Diary} (h : addCustom x files r m = (.ok notes, r')) :
    ∃ e, ofSettings x detectors files supply now r m = (.ok e, r') ∧ e.hub.registry = r' := by
  rw [ofSettings, h]
  exact ⟨_, rfl, rfl⟩

end

/-- **Making an engine.** If all patterns of the file can be registered, there is an engine, and the
registry holds the old patterns and then those of the file. If the file cannot be read, the registry is as
it was. If an identifier is taken, the registry keeps the patterns before the first such one: it is as it
was only if that one comes first in the file. -/
theorem ofSettings_outcome (x : Settings α) (detectors : Option (List (Detector α (Hub α))))
    (files : FileTree) (supply : Supply) (now : α) (r : Registry α) (m : Machine) :
    let made := ofSettings x detectors files supply now r m
    (∃ ps e, x.Adds files m ps ∧ r.Admits ps ∧ made = (.ok e, ⟨r.patterns ++ ps⟩) ∧
      e.hub.registry = ⟨r.patterns ++ ps⟩) ∨
    (∃ f, (∀ ps, ¬ x.Adds files m ps) ∧ made = (.error (.file x.customPatterns f), r)) ∨
    ∃ ps done p, x.Adds files m ps ∧ r.Stops ps done p ∧
      made = (.error (.registry (.duplicate p.id)), ⟨r.patterns ++ done⟩) ∧
      (made.2 = r ↔ done = []) := by
  intro made
  rcases addCustom_cases x files r m with ⟨ps, notes, hadds, hadmits, heq⟩ | ⟨f, hadds, heq⟩ |
    ⟨ps, done, p, hadds, hstops, heq⟩
  · obtain ⟨e, hmade, hregistry⟩ := ofSettings_of_ok detectors supply now heq
    exact .inl ⟨ps, e, hadds, hadmits, hmade, hregistry⟩
  · exact .inr (.inl ⟨f, hadds, ofSettings_of_error detectors supply now heq⟩)
  · have hmade : made = (.error (.registry (.duplicate p.id)), ⟨r.patterns ++ done⟩) :=
      ofSettings_of_error detectors supply now heq
    refine .inr (.inr ⟨ps, done, p, hadds, hstops, hmade, ?_⟩)
    rw [hmade]
    show (⟨r.patterns ++ done⟩ : Registry α) = r ↔ done = []
    constructor
    · intro h
      exact List.append_right_eq_self.mp (congrArg Registry.patterns h)
    · rintro rfl
      rw [List.append_nil]

/-- a file with a new pattern and then one under the identifier `A` -/
def clashing : FileTree := fun _ => .ok (Text.Utf8.bytes ("patterns:\n" ++
  "- \x7bid: B, name: n, description: d, severity: high, confidence: 80, category: honeypot, " ++
    "match: \x7bcontains: x\x7d\x7d\n" ++
  "- \x7bid: A, name: n, description: d, severity: high, confidence: 80, category: honeypot, " ++
    "match: \x7bcontains: x\x7d\x7d\n"))

/-- the settings that name the file -/
def clashingSettings : Settings Float :=
  ⟨"threatscan", "development", "INFO", true, 5.0, "p.yaml", 1000, "", "", "", .high, 10.0⟩

/-- a registry with one pattern -/
def lone : Registry Float :=
  ⟨[⟨"A", .text "", .text "", .high, 80, .honeypot, .contains "x", [], .text "", .null, [], .whole 1⟩]⟩

set_option maxRecDepth 10000 in
/-- there is no engine, since `A` is taken, and the registry that was to be its own now holds `B` -/
theorem ofSettings_leaves_part :
    let made := ofSettings clashingSettings none clashing ⟨Text.natText, 0⟩ 0 lone
    made.1.isOk = false ∧ lone.ids = ["A"] ∧ made.2.ids = ["A", "B"] := by
  unfold clashing
  rw [bytes_append, bytes_append, bytes_append, bytes_append, bytes_ofList, bytes_ofList, bytes_ofList,
    bytes_ofList]
  decide +kernel

end Engine

end ContractRisk
