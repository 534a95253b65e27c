import ConformanceGate.Proofs.Comparison.Differences
import ConformanceGate.Proofs.Json.RoundTrip

/-!
# Canonical texts

The canonical text of a document with whole numbers is read as its normal form
(`Policy.parse_canonicalText`). As the normal form of a normal form is itself, canonical texts are
equal exactly if the normal forms are, and the canonical text of a canonical text is itself.
-/

namespace ConformanceGate

namespace Policy

/-! ## Normal forms again -/

theorem onMembers_map_onMembers_map {f g h : Json → Json} (eq : ∀ v, g (f v) = h v) (v : Json) :
    onMembers (List.map fun m => (m.1, g m.2)) (onMembers (List.map fun m => (m.1, f m.2)) v) =
      onMembers (List.map fun m => (m.1, h m.2)) v := by
  cases v with
  | object members => simp [onMembers, eq]
  | _ => rfl

variable {p q : Policy}

theorem normalField_normalField (h : q.relaxed → p.relaxed) (key : String) (value : Json) :
    p.normalField key (q.normalField key value) = p.normalField key value := by
  by_cases laxer : q.relaxed && isStatusField key && isNonStrict value
  · -- The status became strict, and a strict status stays as it is.
    have strict : isNonStrict (.string "OK") = false := by decide
    simp only [Bool.and_eq_true] at laxer
    simp [normalField, laxer, h laxer.1.1, strict]
  · simp [normalField, laxer]

theorem normalRecord_normalRecord (h : q.relaxed → p.relaxed) (fields : List (String × Json)) :
    p.normalRecord (q.normalRecord fields) = p.normalRecord fields := by
  simp [normalRecord, List.filter_map, Function.comp_def, normalField_normalField h]

/-- Normalizing a case under a stricter policy first makes no difference. -/
theorem normalCase_normalCase (h : q.relaxed → p.relaxed) (v : Json) :
    p.normalCase (q.normalCase v) = p.normalCase v := by
  cases v with
  | object fields => simp [normalCase, onMembers, normalRecord_normalRecord h]
  | _ => rfl

/-- Taking the normal form under a stricter policy first makes no difference. -/
theorem normalize_normalize (h : q.relaxed → p.relaxed) (v : Json) :
    p.normalize (q.normalize v) = p.normalize v :=
  onMembers_map_onMembers_map (onMembers_map_onMembers_map (normalCase_normalCase h)) v

/-! ## What the normal form keeps -/

/-- The property holds of an object of so many levels if that many are allowed and it holds one
level down of what the members are, and it holds of every string. -/
structure Levelled (P : Nat → Json → Prop) (allowed : Nat → Prop) : Prop where
  object : ∀ {depth : Nat} {members : List (String × Json)}, P depth (.object members) ↔
    allowed depth ∧ ∀ m ∈ members, P (depth - 1) m.2
  string : ∀ (depth : Nat) (s : String), P depth (.string s)

theorem levelled_whole : Levelled (fun _ => Json.Whole) fun _ => True :=
  ⟨by simp [Json.whole_object_iff], fun _ _ => trivial⟩

theorem levelled_within : Levelled Json.Within (0 < ·) where
  object := by
    intro depth members
    cases depth with
    | zero => simp [Json.not_within_zero_object]
    | succ depth => simp [Json.within_object_iff]
  string _ _ := trivial

namespace Levelled

variable {P : Nat → Json → Prop} {allowed : Nat → Prop} {depth : Nat} {v : Json}

/-- A property that goes by levels stays if members are mapped within it. -/
theorem onMembers_map (h : Levelled P allowed) {f : Json → Json}
    (hf : ∀ depth v, P depth v → P depth (f v)) (hv : P depth v) :
    P depth (onMembers (List.map fun m => (m.1, f m.2)) v) := by
  cases v with
  | object members =>
    obtain ⟨level, inside⟩ := h.object.mp hv
    refine h.object.mpr ⟨level, fun m hm => ?_⟩
    obtain ⟨old, there, rfl⟩ := List.mem_map.mp hm
    exact hf _ _ (inside old there)
  | _ => exact hv

theorem normalCase (h : Levelled P allowed) (hv : P depth v) : P depth (p.normalCase v) := by
  cases v with
  | object fields =>
    obtain ⟨level, inside⟩ := h.object.mp hv
    refine h.object.mpr ⟨level, fun m hm => ?_⟩
    obtain ⟨old, there, rfl⟩ := List.mem_map.mp hm
    simp only [normalField]
    split_ifs
    · exact h.string _ _
    · exact inside old (List.mem_filter.mp there).1
  | _ => exact hv

/-- A property that goes by levels passes from a document to its normal form. -/
theorem normalize (h : Levelled P allowed) (hv : P depth v) : P depth (p.normalize v) :=
  h.onMembers_map (fun _ _ hv => h.onMembers_map (fun _ _ hv => h.normalCase hv) hv) hv

end Levelled

theorem whole_normalize (p : Policy) {v : Json} (h : v.Whole) : (p.normalize v).Whole :=
  @Levelled.normalize p _ _ 0 v levelled_whole h

theorem within_normalize (p : Policy) {depth : Nat} {v : Json} (h : v.Within depth) :
    (p.normalize v).Within depth := levelled_within.normalize h

theorem objectOf_onMembers_map {P Q : Json → Prop} {f : Json → Json} (hf : ∀ v, P v → Q (f v))
    {v : Json} (h : v.ObjectOf P) :
    (onMembers (List.map fun m => (m.1, f m.2)) v).ObjectOf Q := by
  obtain ⟨members, rfl, inside⟩ := h
  refine Json.objectOf_object.mpr fun m hm => ?_
  obtain ⟨old, there, rfl⟩ := List.mem_map.mp hm
  exact hf _ (inside old there)

theorem isResults_normalize (p : Policy) {v : Json} (h : v.IsResults) :
    (p.normalize v).IsResults := by
  refine objectOf_onMembers_map (fun _ => objectOf_onMembers_map fun record h => ?_) h
  obtain ⟨fields, rfl, -⟩ := h
  exact ⟨p.normalRecord fields, rfl, fun _ _ => trivial⟩

/-- No record of a case has the volatile field in the normal form. -/
theorem get?_duration_normalize (p : Policy) {v record : Json} {agent case : String}
    (h : (p.normalize v).follow? [agent, case] = some record) :
    record.get? "duration" = none := by
  simp only [Json.follow?_cons, get?_normalize, Option.bind_eq_some_iff, Option.map_eq_some_iff,
    Json.follow?_nil] at h
  obtain ⟨_, ⟨cases, -, rfl⟩, _, found, heq⟩ := h
  obtain rfl := Option.some.inj heq
  rw [get?_normalAgent, Option.map_eq_some_iff] at found
  obtain ⟨fields, -, rfl⟩ := found
  rw [get?_normalCase, if_pos rfl]

theorem verify_eq_agrees (p : Policy) (left right : String) {a b : Json} (ra : a.IsResults)
    (rb : b.IsResults) (h : p.normalize a = p.normalize b) :
    p.verify left a right b = .ok .agrees := by
  have covered : ∀ agent, (a.get? agent).isSome → (b.get? agent).isSome := by
    intro agent there
    have same := congrArg (fun v => (v.get? agent).isSome) h
    simpa [there] using same
  obtain ⟨-, judged⟩ | ⟨not, -⟩ := p.verify_cases left right a b
  · rw [judged, judge, if_pos (by rw [h]; exact Json.same_refl _)]
  · exact absurd ⟨ra, rb, covered⟩ not

/-! ## Reading canonical texts -/

/-- The canonical text is read as the normal form, whatever blanks follow it. -/
theorem parse_canonicalText (p : Policy) {v : Json} (ordered : v.Ordered) (whole : v.Whole)
    (within : v.Within Written.depthLimit) {after : String} (blanks : Json.Blanks after.toList) :
    Json.parse (p.canonicalText v ++ after) = .ok (p.normalize v) :=
  Json.parse_pretty (p.ordered_normalize ordered) (p.whole_normalize whole)
    (p.within_normalize within) blanks

/-- Documents read from texts have the same canonical text if and only if they have the same normal
form. How the texts spell the documents does not matter. The canonical text is read as a document
that has this canonical text again. -/
theorem canonicalText_canonical (p : Policy) {s t : String} {v w : Json}
    (hs : Json.parse s = .ok v) (ht : Json.parse t = .ok w) (wv : v.Whole) (ww : w.Whole) :
    (p.canonicalText v = p.canonicalText w ↔ (p.normalize v).same (p.normalize w)) ∧
    (∀ a b, Json.Spells s a → Json.Spells t b → a.Reordered b →
      p.canonicalText v = p.canonicalText w) ∧
    ∃ u, Json.parse (p.canonicalText v) = .ok u ∧ p.canonicalText u = p.canonicalText v := by
  have read {text : String} {x : Json} (h : Json.parse text = .ok x) (whole : x.Whole) :
      Json.parse (p.canonicalText x) = .ok (p.normalize x) := by
    simpa using p.parse_canonicalText (Json.parse_ordered h) whole (Json.parse_within h)
      (show Json.Blanks "".toList from Json.blanks_nil)
  refine ⟨⟨fun h => ?_, fun h => ?_⟩, fun a b ha hb reordered => ?_, p.normalize v, read hs wv, ?_⟩
  · have first := read hs wv
    rw [h, read ht ww] at first
    simp [← Except.ok.inj first]
  · rw [canonicalText, canonicalText, Json.eq_of_same (p.whole_normalize wv)
      (p.whole_normalize ww) h]
  · rw [Json.parse_eq_of_reordered ha hb reordered hs ht]
  · rw [canonicalText, normalize_normalize id, canonicalText]

theorem strictSample_whole : strictSample.Whole := by
  simpa [strictSample, Json.int, Json.Whole, Json.WholeMembers] using
    Number.Whole.integer (n := 4) (by decide) (by decide)

theorem strictSample_within : strictSample.Within Written.depthLimit := by
  simp [strictSample, Json.int, Json.Within, Json.WithinMembers, Written.depthLimit]

def strictSampleText : String := strictSample.pretty ++ "\n"

theorem parse_strictSampleText : Json.parse strictSampleText = .ok strictSample :=
  Json.parse_pretty strictSample_ordered strictSample_whole strictSample_within
    Json.blanks_lineBreak

/-- Two documents that differ in strictness only have the same text for the relaxed policy, and
different ones for the strict policy. -/
theorem canonicalText_canonical_lax :
    ∃ t, Json.parse strictSampleText = .ok strictSample ∧ Json.parse t = .ok laxSample ∧
      canonicalText ⟨true⟩ strictSample = canonicalText ⟨true⟩ laxSample ∧
      strict.canonicalText strictSample ≠ strict.canonicalText laxSample := by
  have whole : laxSample.Whole := by simp [laxSample, Json.Whole, Json.WholeMembers]
  have ordered : laxSample.Ordered := by
    simp [laxSample, Json.Ordered, Json.OrderedMembers, Keyed.increasing_cons]
  have within : laxSample.Within Written.depthLimit := by
    simp [laxSample, Json.Within, Json.WithinMembers, Written.depthLimit]
  have ht := Json.parse_pretty ordered whole within
    (show Json.Blanks "".toList from Json.blanks_nil)
  have relaxed := canonicalText_canonical ⟨true⟩ parse_strictSampleText ht strictSample_whole whole
  have exactly := canonicalText_canonical strict parse_strictSampleText ht strictSample_whole whole
  refine ⟨_, parse_strictSampleText, ht, relaxed.1.mpr rfl, fun h => ?_⟩
  cases exactly.1.mp h

end Policy
end ConformanceGate
