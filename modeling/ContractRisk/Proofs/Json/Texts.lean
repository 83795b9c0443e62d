import ContractRisk.Bundle.View
import ContractRisk.Proofs.Text.Occurrence

/-!
# Texts in JSON

`Value.texts` are the texts in data at any depth, keys among them. Each of them stands in the written data
in one piece, escaped and between quotes, in every style (`Json.quoted_infix_write`). Escaping leaves plain
characters alone, so what is made of them is found in the written text as it is in the text itself.

* `Json.contains_of_within`   what occurs in a text occurs in all that holds the quoted text.
-/

namespace ContractRisk

namespace Value

mutual

/-- the texts in data, at any depth, with the texts of keys -/
def texts : Value → List String
  | text s => [s]
  | list xs | tuple xs => textsOfAll xs
  | map es => textsOfEntries es
  | _ => []

def textsOfAll : List Value → List String
  | [] => []
  | x :: xs => texts x ++ textsOfAll xs

def textsOfEntries : List (Value × Value) → List String
  | [] => []
  | (k, v) :: es => k.display :: texts v ++ textsOfEntries es

end

theorem textsOfAll_eq (xs : List Value) : textsOfAll xs = xs.flatMap texts := by
  induction xs with
  | nil => rfl
  | cons x xs ih => rw [textsOfAll, ih, List.flatMap_cons]

end Value

namespace Json

/-! ## pieces of written data -/

theorem infix_intercalate {w : String} {ws : List String} (h : w ∈ ws) (sep : String) :
    w.toList <:+: (sep.intercalate ws).toList := by
  induction ws with
  | nil => exact nomatch h
  | cons x xs ih =>
    cases xs with
    | nil =>
      rw [List.mem_singleton.mp h, String.intercalate_singleton]
    | cons y ys =>
      rw [String.intercalate_cons_cons, String.toList_append, String.toList_append]
      rcases List.mem_cons.mp h with rfl | h
      · rw [List.append_assoc]
        exact (List.prefix_append _ _).isInfix
      · exact (ih h).trans (List.suffix_append _ _).isInfix

theorem infix_wrap (st : Style) (level : Nat) (opening closing : String) {w : String} {ws : List String}
    (h : w ∈ ws) : w.toList <:+: (st.wrap level opening closing ws).toList := by
  have hsome : ws.isEmpty = false := List.isEmpty_eq_false_iff.mpr (List.ne_nil_of_mem h)
  refine (infix_intercalate h (st.comma (level + 1))).trans ?_
  rw [Style.wrap, hsome]
  simp only [Bool.false_eq_true, if_false, String.toList_append]
  exact ⟨_, _, (List.append_assoc _ _ _).symm⟩

mutual

/-- every text in data is written in one piece -/
theorem quoted_infix_write (st : Style) (level : Nat) : (v : Value) → ∀ s ∈ v.texts,
    (quoted st.asciiOnly s).toList <:+: (st.write level v).toList
  | .text t, s, h => by
    rw [Value.texts, List.mem_singleton] at h
    rw [h, Style.write]
  | .list xs, s, h => by
    rw [Value.texts] at h
    obtain ⟨w, hw, hs⟩ := quoted_infix_items st (level + 1) xs s h
    rw [Style.write]
    exact hs.trans (infix_wrap st level "[" "]" hw)
  | .tuple xs, s, h => by
    rw [Value.texts] at h
    obtain ⟨w, hw, hs⟩ := quoted_infix_items st (level + 1) xs s h
    rw [Style.write]
    exact hs.trans (infix_wrap st level "[" "]" hw)
  | .map es, s, h => by
    rw [Value.texts] at h
    obtain ⟨w, hw, hs⟩ := quoted_infix_entries st (level + 1) es s h
    rw [Style.write]
    exact hs.trans (infix_wrap st level "\x7b" "\x7d" hw)
  | .null, _, h | .bool _, _, h | .int _, _, h | .float _, _, h | .bytes _, _, h | .date _, _, h
  | .moment _, _, h | .set _, _, h | .around _, _, h => nomatch h

theorem quoted_infix_items (st : Style) (level : Nat) : (xs : List Value) →
    ∀ s ∈ Value.textsOfAll xs, ∃ w ∈ st.items level xs, (quoted st.asciiOnly s).toList <:+: w.toList
  | [], _, h => nomatch h
  | x :: xs, s, h => by
    rw [Value.textsOfAll, List.mem_append] at h
    rw [Style.items]
    rcases h with h | h
    · exact ⟨_, List.mem_cons_self, quoted_infix_write st level x s h⟩
    · obtain ⟨w, hw, hs⟩ := quoted_infix_items st level xs s h
      exact ⟨w, List.mem_cons_of_mem _ hw, hs⟩

theorem quoted_infix_entries (st : Style) (level : Nat) : (es : List (Value × Value)) →
    ∀ s ∈ Value.textsOfEntries es, ∃ w ∈ st.entries level es, (quoted st.asciiOnly s).toList <:+: w.toList
  | [], _, h => nomatch h
  | (k, v) :: es, s, h => by
    rw [Value.textsOfEntries, List.cons_append, List.mem_cons, List.mem_append] at h
    rw [Style.entries]
    rcases h with rfl | h | h
    · refine ⟨_, List.mem_cons_self, ?_⟩
      rw [String.append_assoc, String.toList_append]
      exact (List.prefix_append _ _).isInfix
    · refine ⟨_, List.mem_cons_self, (quoted_infix_write st level v s h).trans ?_⟩
      rw [String.toList_append]
      exact (List.suffix_append _ _).isInfix
    · obtain ⟨w, hw, hs⟩ := quoted_infix_entries st level es s h
      exact ⟨w, List.mem_cons_of_mem _ hw, hs⟩

end

/-! ## plain characters -/

/-- a printable ASCII character that is written as it is -/
def IsPlain (c : Char) : Prop := (32 ≤ c.toNat ∧ c.toNat ≤ 126) ∧ c ≠ '"' ∧ c ≠ '\\'

instance : DecidablePred IsPlain := fun c =>
  inferInstanceAs (Decidable ((32 ≤ c.toNat ∧ c.toNat ≤ 126) ∧ c ≠ '"' ∧ c ≠ '\\'))

theorem IsPlain.ascii {c : Char} (h : IsPlain c) : c.toNat < 128 := by
  have hle := h.1.2
  omega

theorem isPlain_toLower (c : Char) : IsPlain c.toLower ↔ IsPlain c := by
  by_cases h : c.toNat < 128
  · exact Text.forall_ascii (P := fun c => IsPlain c.toLower ↔ IsPlain c) (by decide +kernel) h
  · rw [Text.toLower_of_not_ascii h]

theorem escaped_of_isPlain {c : Char} (h : IsPlain c) (asciiOnly : Bool) : escaped asciiOnly c = [c] :=
  Text.forall_ascii (P := fun c => IsPlain c → ∀ asciiOnly, escaped asciiOnly c = [c])
    (by decide +kernel) h.ascii h asciiOnly

theorem flatMap_escaped {cs : List Char} (h : ∀ c ∈ cs, IsPlain c) (asciiOnly : Bool) :
    cs.flatMap (escaped asciiOnly) = cs := by
  rw [List.flatMap_congr fun c hc => escaped_of_isPlain (h c hc) asciiOnly]
  exact List.flatMap_singleton' cs

theorem infix_quoted {cs : List Char} (h : ∀ c ∈ cs, IsPlain c) {s : String} (hcs : cs <:+: s.toList)
    (asciiOnly : Bool) : cs <:+: (quoted asciiOnly s).toList := by
  obtain ⟨pre, post, hs⟩ := hcs
  rw [quoted, String.toList_ofList, quotedChars, ← hs, List.flatMap_append, List.flatMap_append,
    flatMap_escaped h]
  have hinner := List.infix_append (pre.flatMap (escaped asciiOnly)) cs (post.flatMap (escaped asciiOnly))
  exact hinner.trans ((List.suffix_cons _ _).isInfix.trans (List.prefix_append _ _).isInfix)

/-- what occurs in a text is found in all that holds the quoted text -/
theorem contains_of_within {t s text : String} {asciiOnly : Bool} (ht : ∀ c ∈ t.toList, IsPlain c)
    (h : Text.Within t s) (hs : (quoted asciiOnly s).toList <:+: text.toList) :
    Text.contains (Text.lower text) (Text.lower t) = true := by
  obtain ⟨cs, hcs, hsame⟩ := h.exists_infix
  have hplain : ∀ c ∈ cs, IsPlain c := by
    intro c hc
    have hlow : c.toLower ∈ t.toList.map Char.toLower := hsame ▸ List.mem_map_of_mem hc
    obtain ⟨d, hd, hdc⟩ := List.mem_map.mp hlow
    rw [← isPlain_toLower, ← hdc, isPlain_toLower]
    exact ht d hd
  rw [Text.contains, Text.occurs_iff, Text.lower, Text.lower, String.toList_ofList, String.toList_ofList,
    Text.lowerChars, Text.lowerFrom_ascii fun c hc => (ht c hc).ascii, ← hsame]
  exact Text.infix_lowerChars (fun c hc => (hplain c hc).ascii)
    ((infix_quoted hplain hcs asciiOnly).trans hs)

end Json

end ContractRisk
