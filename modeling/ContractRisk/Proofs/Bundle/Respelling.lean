import ContractRisk.Proofs.Bundle.Spelling

/-!
# Bundles with other keys

What a bundle is made of does not depend on how the keys of its fields are spelled. `Check.Kept` says that what
one check gives, another one gives too, and `Check.Keeps` that a check gives the same for data that are alike:

* `keeps_text`, `keeps_float`, `Keeps.list`, ...   scalars and containers;
* `Kin.field_kept`   the field of an object, by whatever key;
* `ofFields_kept`    the whole bundle, from the parts.

`parse_respelled` states it of all that a bundle is read from.
-/

namespace ContractRisk
open Check

/-! ## checks of what is alike -/

namespace Check

variable {β γ : Type}

/-- what the first check gives, the second one gives too -/
def Kept (x x' : Check β) : Prop := ∀ y, x = .ok y → x' = .ok y

theorem Kept.refl (x : Check β) : Kept x x := fun _ h => h

theorem Kept.fail {path : List String} {cause : Cause} {x : Check β} : Kept (fail path cause) x := nofun

theorem Kept.map {x x' : Check β} (f : β → γ) (h : Kept x x') : Kept (f <$> x) (f <$> x') := by
  intro z hz
  obtain ⟨y, hy, rfl⟩ := map_eq_ok.mp hz
  exact map_ok (h y hy)

theorem Kept.seq {f f' : Check (β → γ)} {x x' : Check β} (hf : Kept f f') (hx : Kept x x') :
    Kept (f <*> x) (f' <*> x') := by
  intro z hz
  obtain ⟨g, hg, y, hy, rfl⟩ := seq_eq_ok.mp hz
  exact seq_ok (hf g hg) (hx y hy)

theorem Kept.ite {c : Prop} [Decidable c] {x x' y y' : Check β} (hx : Kept x x') (hy : Kept y y') :
    Kept (if c then x else y) (if c then x' else y') := by
  by_cases h : c
  · rw [if_pos h, if_pos h]
    exact hx
  · rw [if_neg h, if_neg h]
    exact hy

theorem Kept.elim {o : Option γ} {x x' : Check β} {f f' : γ → Check β} (hx : Kept x x')
    (hf : ∀ y, Kept (f y) (f' y)) : Kept (o.elim x f) (o.elim x' f') := by
  cases o with
  | none => exact hx
  | some y => exact hf y

/-- what passes for texts does so under any path -/
theorem keyed_kept (refusal refusal' : Value → Problem) (es : List (Value × Value)) :
    Kept (keyed refusal es) (keyed refusal' es) := by
  induction es with
  | nil => exact .refl _
  | cons e es ih => exact ((Kept.elim nofun fun _ => .refl _).map _).seq ih

/-- the check gives the same for data that are alike, under whatever path -/
def Keeps (check : List String → Value → Check β) (l : Likeness) : Prop :=
  ∀ ⦃v v' : Value⦄, l.Alike v v' → ∀ path path', Kept (check path v) (check path' v')

theorem keeps_text : Keeps text .same := by
  rintro v _ rfl path path'
  exact .elim .fail fun _ => .refl _

theorem keeps_float : Keeps float .same := by
  rintro v _ rfl path path'
  cases v with
  | float x => exact .refl _
  | bool b => exact .refl _
  | int i => exact .ite .fail (.refl _)
  | text s => exact .elim .fail fun _ => .refl _
  | bytes bs => exact .elim .fail fun _ => .refl _
  | _ => exact .fail

theorem integerOfText_kept (path path' : List String) (s : String) :
    Kept (integerOfText path s) (integerOfText path' s) := .ite .fail (.elim .fail fun _ => .refl _)

theorem keeps_integer : Keeps integer .same := by
  rintro v _ rfl path path'
  cases v with
  | int i => exact .refl _
  | bool b => exact .refl _
  | float x =>
    unfold integer
    dsimp only
    split
    · split
      · exact .fail
      · exact .ite (.refl _) .fail
    · exact .fail
  | text s => exact integerOfText_kept path path' s
  | bytes bs => exact .elim .fail (integerOfText_kept path path')
  | _ => exact .fail

theorem keeps_boolean : Keeps boolean .same := by
  rintro v _ rfl path path'
  cases v with
  | bool b => exact .refl _
  | int i => exact .ite (.refl _) (.ite (.refl _) (.ite .fail .fail))
  | float x =>
    unfold boolean
    dsimp only
    split
    · exact .ite (.refl _) (.ite (.refl _) (.ite .fail .fail))
    · exact .fail
  | text s => exact .elim .fail fun _ => .refl _
  | bytes bs => exact .elim .fail fun _ => .refl _
  | _ => exact .fail

theorem keeps_scalar {α : Type} [Scalar α] : Keeps (checkScalar : List String → Value → Check α) .same :=
  fun _ _ hv path path' => (keeps_float hv path path').map Scalar.ofFloat

theorem keeps_label : Keeps checkLabel .same := by
  rintro v _ rfl path path'
  unfold checkLabel text
  cases v.asText? with
  | none => exact .fail
  | some s => exact .ite .fail (.refl _)

theorem keeps_fields (medium : Medium) : Keeps (fields medium) .same := by
  rintro v _ rfl path path'
  cases v with
  | map es => exact (keyed_kept _ _ es).map _
  | _ => exact .fail

section
variable {check : List String → Value → Check β} {l : Likeness}

theorem Keeps.each (h : Keeps check l) {xs xs' : List Value} (hxs : List.Forall₂ l.Alike xs xs')
    (path path' : List String) (i : Nat) : Kept (each path check i xs) (each path' check i xs') := by
  induction hxs generalizing i with
  | nil => exact .refl _
  | cons hx _ ih => exact ((h hx _ _).map List.cons).seq (ih (i + 1))

theorem Keeps.list (h : Keeps check l) (medium : Medium) : Keeps (list medium check) l.list := by
  intro v v' hv path path'
  have hsame : ∀ xs : List Value, List.Forall₂ l.Alike xs xs :=
    fun xs => List.forall₂_same.mpr fun x _ => l.refl x
  rcases hv with rfl | ⟨xs, xs', rfl, rfl, hxs⟩
  · cases v with
    | list xs => exact h.each (hsame xs) path path' 0
    | tuple xs => exact h.each (hsame xs) path path' 0
    | set xs => exact h.each (hsame xs) path path' 0
    | _ => exact .fail
  · exact h.each hxs path path' 0

theorem Keeps.list_same (h : Keeps check .same) (medium : Medium) : Keeps (Check.list medium check) .same :=
  fun _ _ hv => h.list medium (.inl hv)

theorem optional_of_ne_null {path : List String} {v : Value} (h : v ≠ .null) :
    optional check path v = some <$> check path v := by
  cases v with
  | null => exact absurd rfl h
  | _ => rfl

theorem Keeps.optional (h : Keeps check l) : Keeps (optional check) l := by
  intro v v' hv path path'
  by_cases hnull : v = .null
  · obtain rfl := (l.null_iff hv).mp hnull
    subst hnull
    exact .refl _
  · rw [optional_of_ne_null hnull, optional_of_ne_null fun hv' => hnull ((l.null_iff hv).mpr hv')]
    exact (h hv path path').map some

end

/-- an object is checked as what it holds -/
theorem kept_record {m : Model} {medium : Medium} {model : String} {path path' : List String} {v v' : Value}
    (hv : m.likeness.Alike v v') {body body' : Fields → Check β}
    (h : ∀ fs gs, m.Kin fs gs → Kept (body fs) (body' gs)) :
    Kept
      (match record medium model path v with
      | .error p => .error p
      | .ok fs => body fs)
      (match record medium model path' v' with
      | .error p => .error p
      | .ok gs => body' gs) := by
  rcases hv with rfl | ⟨fs, gs, rfl, rfl, hkin⟩
  · cases v with
    | map es => exact h _ _ (.inl rfl)
    | _ => exact nofun
  · rw [record_textMap, record_textMap]
    exact h fs gs (.inr hkin)

end Check

/-- the field at place `i` of a model; its spellings are compared with those that the check looks for -/
theorem Model.Kin.field_kept {β : Type} {m : Model} {fs gs : Fields} (h : m.Kin fs gs) (i : Nat) {s : Slot}
    {spellings : List String} (hi : m.slots[i]? = some s) (hspellings : s.spellings = spellings)
    {check : List String → Value → Check β} (hcheck : Keeps check s.likeness) {absent absent' : Check β}
    (habsent : Kept absent absent') {path path' : List String} :
    Kept (field fs path spellings absent check) (field gs path' spellings absent' check) := by
  have hrel := h.spelled? (List.mem_of_getElem? hi)
  rw [hspellings] at hrel
  unfold field
  generalize Check.spelled? spellings fs = found, Check.spelled? spellings gs = found' at hrel ⊢
  cases hrel with
  | none => exact habsent
  | some hv => exact hcheck hv _ _

section
variable {α : Type} [Scalar α] (medium : Medium)

theorem HolderShare.keeps :
    Keeps (check medium : List String → Value → Check (HolderShare α)) model.likeness := by
  intro v v' hv path path'
  exact kept_record hv fun fs gs hkin =>
    ((hkin.field_kept 0 rfl rfl keeps_text (.refl _)).map mk).seq
      (hkin.field_kept 1 rfl rfl keeps_scalar (.refl _))

theorem LiquidityMetrics.keeps :
    Keeps (check medium : List String → Value → Check (LiquidityMetrics α)) model.likeness := by
  intro v v' hv path path'
  exact kept_record hv fun fs gs hkin =>
    ((hkin.field_kept 0 rfl rfl keeps_scalar.optional (.refl _)).map mk).seq
      (hkin.field_kept 1 rfl rfl keeps_boolean.optional (.refl _)) |>.seq
      (hkin.field_kept 2 rfl rfl keeps_boolean.optional (.refl _))

theorem TokenMetrics.keeps :
    Keeps (check medium : List String → Value → Check (TokenMetrics α)) model.likeness := by
  intro v v' hv path path'
  exact kept_record hv fun fs gs hkin =>
    ((hkin.field_kept 0 rfl rfl ((HolderShare.keeps medium).list medium) (.refl _)).map mk).seq
      (hkin.field_kept 1 rfl rfl (LiquidityMetrics.keeps medium).optional (.refl _))

theorem TeamMetrics.keeps :
    Keeps (check medium : List String → Value → Check (TeamMetrics α)) model.likeness := by
  intro v v' hv path path'
  exact kept_record hv fun fs gs hkin =>
    ((hkin.field_kept 0 rfl rfl keeps_integer.optional (.refl _)).map mk).seq
      (hkin.field_kept 1 rfl rfl keeps_scalar.optional (.refl _)) |>.seq
      (hkin.field_kept 2 rfl rfl keeps_scalar.optional (.refl _))

theorem WebsiteMetrics.keeps :
    Keeps (check medium : List String → Value → Check (WebsiteMetrics α)) model.likeness := by
  intro v v' hv path path'
  exact kept_record hv fun fs gs hkin =>
    ((hkin.field_kept 0 rfl rfl keeps_scalar.optional (.refl _)).map mk).seq
      (hkin.field_kept 1 rfl rfl keeps_scalar.optional (.refl _)) |>.seq
      (hkin.field_kept 2 rfl rfl keeps_scalar.optional (.refl _))

theorem SocialMetrics.keeps :
    Keeps (check medium : List String → Value → Check (SocialMetrics α)) model.likeness := by
  intro v v' hv path path'
  exact kept_record hv fun fs gs hkin =>
    ((hkin.field_kept 0 rfl rfl (TeamMetrics.keeps medium).optional (.refl _)).map mk).seq
      (hkin.field_kept 1 rfl rfl (WebsiteMetrics.keeps medium).optional (.refl _)) |>.seq
      (hkin.field_kept 2 rfl rfl keeps_scalar.optional (.refl _)) |>.seq
      (hkin.field_kept 3 rfl rfl keeps_scalar.optional (.refl _)) |>.seq
      (hkin.field_kept 4 rfl rfl keeps_scalar.optional (.refl _))

theorem TransactionRecord.keeps :
    Keeps (check medium : List String → Value → Check (TransactionRecord α)) model.likeness := by
  intro v v' hv path path'
  exact kept_record hv fun fs gs hkin =>
    ((hkin.field_kept 0 rfl rfl keeps_text (.refl _)).map mk).seq
      (hkin.field_kept 1 rfl rfl keeps_text (.refl _)) |>.seq
      (hkin.field_kept 2 rfl rfl keeps_text (.refl _)) |>.seq
      (hkin.field_kept 3 rfl rfl keeps_scalar (.refl _)) |>.seq
      (hkin.field_kept 4 rfl rfl keeps_text (.refl _)) |>.seq
      (hkin.field_kept 5 rfl rfl keeps_boolean (.refl _))

/-- the keys that are taken are those that spell a field -/
theorem AbiEntry.mem_taken_iff {fs : Fields} (honce : model.SpelledOnce fs) {f : String × Value}
    (hf : f ∈ fs) : f.1 ∈ taken medium fs ↔ model.Spells f.1 := by
  have hslots : model.slots.map Slot.spellings = spellings := by decide
  cases medium with
  | json =>
    show f.1 ∈ spellings.flatten ↔ _
    rw [← hslots, ← List.flatMap_def, List.mem_flatMap]
    rfl
  | memory =>
    unfold taken
    rw [← hslots, List.filterMap_map, List.mem_filterMap]
    constructor
    · rintro ⟨s, hs, htaken⟩
      obtain ⟨g, hg, hkey⟩ := Option.map_eq_some_iff.mp htaken
      exact ⟨s, hs, hkey ▸ key_mem_of_spelled? hg⟩
    · rintro ⟨s, hs, hkey⟩
      refine ⟨s, hs, Option.map_eq_some_iff.mpr ⟨f, ?_, rfl⟩⟩
      rw [Slot.spelled?_eq (honce s hs),
        Slot.among_eq_singleton (honce s hs) (Slot.mem_among.mpr ⟨hf, hkey⟩)]
      rfl

theorem AbiEntry.others_eq {fs : Fields} (honce : model.SpelledOnce fs) :
    (fs.filter fun f => !(taken medium fs).contains f.1) = model.others fs := by
  refine List.filter_congr fun f hf => congrArg not ?_
  rw [List.contains_eq_mem, decide_eq_decide]
  exact mem_taken_iff medium honce hf

/-- rekeyed objects have the same extra keys -/
theorem AbiEntry.checkExtras_rekeyed {fs gs : Fields} (honce : model.SpelledOnce fs)
    (hrekeyed : model.Rekeyed fs gs) (path path' : List String) :
    checkExtras (taken medium fs) path (fs.map fun f => (.text f.1, f.2)) =
      checkExtras (taken medium gs) path' (gs.map fun f => (.text f.1, f.2)) := by
  unfold checkExtras
  rw [keyed_texts, keyed_texts]
  refine congrArg (fun hs => Except.ok (overlay [] hs)) ?_
  rw [others_eq medium honce, others_eq medium (hrekeyed.spelledOnce honce), hrekeyed.others_eq rfl]

/-- an interface entry is made of its fields and of its extra keys -/
theorem AbiEntry.check_kept {es es' : List (Value × Value)} {path path' : List String}
    (hkin : model.Kin (fieldsOf es) (fieldsOf es'))
    (hextras : Kept (checkExtras (taken medium (fieldsOf es)) path es)
      (checkExtras (taken medium (fieldsOf es')) path' es')) :
    Kept (check medium path (.map es)) (check medium path' (.map es')) :=
  ((hkin.field_kept 0 rfl rfl keeps_text.optional (.refl _)).map mk).seq
    (hkin.field_kept 1 rfl rfl keeps_text (.refl _)) |>.seq
    (hkin.field_kept 2 rfl rfl keeps_text.optional (.refl _)) |>.seq
    (hkin.field_kept 3 rfl rfl ((keeps_fields medium).list_same medium) (.refl _)) |>.seq
    (hkin.field_kept 4 rfl rfl ((keeps_fields medium).list_same medium) (.refl _)) |>.seq hextras

theorem AbiEntry.keeps : Keeps (check medium) model.likeness := by
  intro v v' hv path path'
  rcases hv with rfl | ⟨fs, gs, rfl, rfl, honce, hrekeyed⟩
  · cases v with
    | map es => exact check_kept medium (.inl rfl) ((keyed_kept _ _ es).map _)
    | _ => exact nofun
  · refine check_kept medium ?_ ?_
    · rw [fieldsOf_texts, fieldsOf_texts]
      exact .inr ⟨honce, hrekeyed⟩
    · rw [fieldsOf_texts, fieldsOf_texts, checkExtras_rekeyed medium honce hrekeyed path path']
      exact .refl _

/-! ## the whole -/

theorem Bundle.ofFields_kept {fs gs : Fields} (hkin : model.Kin fs gs) :
    Kept (ofFields medium fs : Check (Bundle α)) (ofFields medium gs) :=
  ((hkin.field_kept 0 rfl rfl keeps_label .fail).map mk).seq
    (hkin.field_kept 1 rfl rfl keeps_label .fail) |>.seq
    (hkin.field_kept 2 rfl rfl keeps_text.optional (.refl _)) |>.seq
    (hkin.field_kept 3 rfl rfl keeps_text.optional (.refl _)) |>.seq
    (hkin.field_kept 4 rfl rfl ((AbiEntry.keeps medium).list medium).optional (.refl _)) |>.seq
    (hkin.field_kept 5 rfl rfl (keeps_fields medium).optional (.refl _)) |>.seq
    (hkin.field_kept 6 rfl rfl ((TransactionRecord.keeps medium).list medium).optional (.refl _)) |>.seq
    (hkin.field_kept 7 rfl rfl (TokenMetrics.keeps medium).optional (.refl _)) |>.seq
    (hkin.field_kept 8 rfl rfl (SocialMetrics.keeps medium).optional (.refl _))

end

/-- the object that a source holds -/
inductive BundleSource.Holds : Medium → BundleSource → Fields → Prop
  | data (fs : Fields) : Holds .memory (.data (textMap fs)) fs
  | bytes {bs : List UInt8} {fs : Fields} (h : Json.read Json.bundleNesting bs = .ok (textMap fs)) :
      Holds .json (.bytes bs) fs
  | text {s : String} {fs : Fields}
      (h : Json.read Json.bundleNesting (Text.Utf8.bytes s) = .ok (textMap fs)) : Holds .json (.text s) fs

theorem BundleSource.Holds.parse_eq {α : Type} [Scalar α] {medium : Medium} {source : BundleSource}
    {fs : Fields} (h : source.Holds medium fs) :
    Bundle.parse source = (Bundle.ofFields medium fs : Check (Bundle α)).mapError .invalid := by
  have hjson : ∀ {bs : List UInt8}, Json.read Json.bundleNesting bs = .ok (textMap fs) →
      Bundle.ofJson bs = (Bundle.ofFields .json fs : Check (Bundle α)).mapError .invalid := by
    intro bs hread
    unfold Bundle.ofJson Bundle.ofValue
    rw [hread]
    dsimp only
    rw [record_textMap]
  cases h with
  | data =>
    show (Bundle.ofFields .memory (fieldsOf (fs.map fun f => (.text f.1, f.2))) : Check (Bundle α)).mapError
      BundleError.invalid = _
    rw [fieldsOf_texts]
  | bytes h => exact hjson h
  | text h => exact hjson h

/-- **Spelling does not matter.** If an object in which each field is spelled once is read as a bundle, the same
bundle is read from it with other spellings of the fields, at any depth, and with further keys that spell none
of them, anywhere but in interface entries. -/
theorem Bundle.parse_respelled {α : Type} [Scalar α] {fs gs : Fields} (honce : model.SpelledOnce fs)
    (hrekeyed : model.Rekeyed fs gs) {medium : Medium} {source source' : BundleSource}
    (hsource : source.Holds medium fs) (hsource' : source'.Holds medium gs) {b : Bundle α}
    (hb : parse source = .ok b) : parse source' = .ok b := by
  rw [hsource.parse_eq] at hb
  rw [hsource'.parse_eq]
  cases hread : (ofFields medium fs : Check (Bundle α)) with
  | error ps =>
    rw [hread] at hb
    exact nomatch hb
  | ok b' =>
    rw [hread] at hb
    rw [ofFields_kept medium (.inr ⟨honce, hrekeyed⟩) b' hread]
    exact hb

namespace Sample

def snakeEntry : Fields := [("state_mutability", .text "view"), ("anonymous", .bool false)]

def camelEntry : Fields := [("stateMutability", .text "view"), ("anonymous", .bool false)]

def snakeLiquidity : Fields := [("owner_can_remove", .bool true)]

/-- with a further key -/
def camelLiquidity : Fields := [("ownerCanRemove", .bool true), ("burned", .int 3)]

def snakeFields : Fields :=
  [("address", .text "0xabc"), ("network", .text "eth"), ("abi", .list [textMap snakeEntry]),
    ("transactions", .list [textMap [("from", .text "0x1")]]),
    ("token_metrics", textMap [("liquidity", textMap snakeLiquidity)])]

/-- with a further key -/
def camelFields : Fields :=
  [("address", .text "0xabc"), ("note", .null), ("network", .text "eth"), ("abi", .list [textMap camelEntry]),
    ("transactions", .list [textMap [("fromAddress", .text "0x1")]]),
    ("tokenMetrics", textMap [("liquidity", textMap camelLiquidity)])]

theorem entry_rekeyed : AbiEntry.model.Rekeyed snakeEntry camelEntry :=
  .field (List.mem_of_getElem? (i := 2) rfl) (by decide) (by decide) rfl (.other (by decide) .nil)

theorem liquidity_rekeyed : LiquidityMetrics.model.Rekeyed snakeLiquidity camelLiquidity :=
  .field (List.mem_of_getElem? (i := 2) rfl) (by decide) (by decide) rfl (.added rfl (by decide) .nil)

theorem fields_rekeyed : Bundle.model.Rekeyed snakeFields camelFields := by
  have hentry : AbiEntry.model.likeness.list.Alike (.list [textMap snakeEntry]) (.list [textMap camelEntry]) :=
    .inr ⟨_, _, rfl, rfl, .cons (.inr ⟨_, _, rfl, rfl, by decide, entry_rekeyed⟩) .nil⟩
  have htransaction : TransactionRecord.model.likeness.list.Alike
      (.list [textMap [("from", .text "0x1")]]) (.list [textMap [("fromAddress", .text "0x1")]]) :=
    .inr ⟨_, _, rfl, rfl, .cons (.inr ⟨_, _, rfl, rfl, by decide,
      .field (List.mem_of_getElem? (i := 1) rfl) (by decide) (by decide) rfl .nil⟩) .nil⟩
  have htoken : TokenMetrics.model.likeness.Alike (textMap [("liquidity", textMap snakeLiquidity)])
      (textMap [("liquidity", textMap camelLiquidity)]) :=
    .inr ⟨_, _, rfl, rfl, by decide, .field (List.mem_of_getElem? (i := 1) rfl) (by decide) (by decide)
      (.inr ⟨_, _, rfl, rfl, by decide, liquidity_rekeyed⟩) .nil⟩
  refine .field (List.mem_of_getElem? (i := 0) rfl) (by decide) (by decide) rfl (.added rfl (by decide) ?_)
  refine .field (List.mem_of_getElem? (i := 1) rfl) (by decide) (by decide) rfl ?_
  refine .field (List.mem_of_getElem? (i := 4) rfl) (by decide) (by decide) hentry ?_
  refine .field (List.mem_of_getElem? (i := 6) rfl) (by decide) (by decide) htransaction ?_
  exact .field (List.mem_of_getElem? (i := 7) rfl) (by decide) (by decide) htoken .nil

end Sample

/-- spellings differ in the bundle, in an interface entry, in a transaction and in the liquidity metrics -/
theorem Bundle.parse_respelled_nested :
    model.SpelledOnce Sample.snakeFields ∧ model.Rekeyed Sample.snakeFields Sample.camelFields ∧
    ∃ b : Bundle Float, parse (.data (textMap Sample.snakeFields)) = .ok b ∧
      parse (.data (textMap Sample.camelFields)) = .ok b ∧
      b.entries.map (·.stateMutability) = [some "view"] ∧
      (b.transactions.getD []).map (·.fromAddress) = ["0x1"] ∧
      b.liquidity.bind (·.ownerCanRemove) = some true := by
  have honce : model.SpelledOnce Sample.snakeFields := by decide
  have hfacts : (parse (.data (textMap Sample.snakeFields)) : Except BundleError (Bundle Float)).toOption.any
      (fun b => b.entries.map (·.stateMutability) = [some "view"] ∧
        (b.transactions.getD []).map (·.fromAddress) = ["0x1"] ∧
        b.liquidity.bind (·.ownerCanRemove) = some true) = true := by decide +kernel
  obtain ⟨b, hb, hall⟩ := exists_ok_of_any hfacts
  exact ⟨honce, Sample.fields_rekeyed, b, hb,
    parse_respelled honce Sample.fields_rekeyed (.data _) (.data _) hb, of_decide_eq_true hall⟩

end ContractRisk
