import ConformanceGate.Comparison.Verdict
import ConformanceGate.Proofs.Json.Places

/-!
# When a verdict is reached, and which

Two documents can be compared if both have the form of results and the fresh one covers every
implementation of the baseline; in all other cases the comparison is refused. The verdict on
documents that can be compared is then a matter of what stands where: they agree exactly if they
have the same implementations, cases and fields, the volatile field apart, and fields count the
same on both sides (`Policy.Agree`).
-/

namespace ConformanceGate

namespace Json

/-- An object all of whose members have a property. -/
def ObjectOf (P : Json → Prop) (v : Json) : Prop :=
  ∃ members, v = .object members ∧ ∀ m ∈ members, P m.2

/-- The form of results: an object of objects of objects. -/
def IsResults : Json → Prop := ObjectOf (ObjectOf (ObjectOf fun _ => True))

/-- Both documents are results, and no implementation of the baseline is missing. -/
structure Comparable (baseline fresh : Json) : Prop where
  baseline_results : baseline.IsResults
  fresh_results : fresh.IsResults
  covered : ∀ agent, (baseline.get? agent).isSome → (fresh.get? agent).isSome

@[simp] theorem objectOf_object {P : Json → Prop} {members : List (String × Json)} :
    (object members).ObjectOf P ↔ ∀ m ∈ members, P m.2 := by
  simp [ObjectOf]

theorem not_objectOf {P : Json → Prop} {v : Json} (h : v.members? = none) : ¬ v.ObjectOf P := by
  rintro ⟨members, rfl, -⟩
  simp at h

theorem ObjectOf.get? {P : Json → Prop} {v found : Json} {key : String} (h : v.ObjectOf P)
    (hf : v.get? key = some found) : P found := by
  obtain ⟨members, rfl, hm⟩ := h
  exact hm _ (Keyed.mem_of_lookup hf)

end Json

namespace Policy

/-- What a value of a field counts as. -/
def counted (p : Policy) (field : String) (value : Json) : Json :=
  if p.relaxed ∧ (field = "behavior" ∨ field = "behaviorClose") ∧ value.same (.string "NON-STRICT")
  then .string "OK" else value

/-- The documents show the same implementations, each with the same cases, and every field of a
record but the volatile one is there on neither side, or on both with values that count the same. -/
structure Agree (p : Policy) (baseline fresh : Json) : Prop where
  agents : ∀ agent, (baseline.get? agent).isSome ↔ (fresh.get? agent).isSome
  cases : ∀ agent case,
    (baseline.follow? [agent, case]).isSome ↔ (fresh.follow? [agent, case]).isSome
  fields : ∀ agent case field, field ≠ "duration" →
    Json.Alike ((baseline.follow? [agent, case, field]).map (p.counted field))
      ((fresh.follow? [agent, case, field]).map (p.counted field))

/-- Two records agree in every field but the volatile one. -/
def AgreeOnFields (p : Policy) (left right : Json) : Prop :=
  ∀ field, field ≠ "duration" →
    Json.Alike ((left.get? field).map (p.counted field)) ((right.get? field).map (p.counted field))

/-- Agreement level by level: every implementation, and every case of it, is on neither side or on
both. -/
theorem agree_iff (p : Policy) {baseline fresh : Json} :
    p.Agree baseline fresh ↔
      ∀ agent, Option.Rel
        (fun x y => ∀ case, Option.Rel p.AgreeOnFields (x.get? case) (y.get? case))
        (baseline.get? agent) (fresh.get? agent) := by
  simp only [Json.rel_iff]
  constructor
  · intro h agent
    refine ⟨h.agents agent, fun x y hx hy case => ⟨?_, fun r s hr hs field hfield => ?_⟩⟩
    · simpa [hx, hy, Json.follow?] using h.cases agent case
    · simpa [hx, hy, hr, hs, Json.follow?] using h.fields agent case field hfield
  · intro h
    refine ⟨fun agent => (h agent).1, fun agent case => ?_, fun agent case field hfield => ?_⟩
    all_goals
      have agents := (h agent).1
      rcases hx : baseline.get? agent with - | x <;> rcases hy : fresh.get? agent with - | y <;>
        simp [hx, hy] at agents ⊢
      obtain ⟨cases, fields⟩ := (h agent).2 x y hx hy case
    · simpa [Json.follow?] using cases
    · rcases hr : x.get? case with - | r <;> rcases hs : y.get? case with - | s <;>
        simp [hr, hs] at cases ⊢
      simpa [Json.follow?] using fields r s hr hs field hfield

theorem normalField_eq_counted (p : Policy) (field : String) (value : Json) :
    p.normalField field value = p.counted field value := by
  have status : isNonStrict value = value.same (.string "NON-STRICT") := by
    cases value <;> simp [isNonStrict, Json.same]
  simp [normalField, counted, isStatusField, status, and_assoc]

/-! ## The normal form, place by place -/

@[simp] theorem get?_onMembers_map (f : String → Json → Json) (v : Json) (key : String) :
    (onMembers (List.map fun m => (m.1, f m.1 m.2)) v).get? key = (v.get? key).map (f key) := by
  cases v with
  | object members => simp [onMembers]
  | _ => rfl

def normalCase (p : Policy) : Json → Json := onMembers p.normalRecord

def normalAgent (p : Policy) : Json → Json :=
  onMembers (List.map fun m => (m.1, p.normalCase m.2))

theorem normalize_eq (p : Policy) (v : Json) :
    p.normalize v = onMembers (List.map fun m => (m.1, p.normalAgent m.2)) v := rfl

@[simp] theorem get?_normalize (p : Policy) (v : Json) (agent : String) :
    (p.normalize v).get? agent = (v.get? agent).map p.normalAgent :=
  get?_onMembers_map (fun _ => p.normalAgent) v agent

@[simp] theorem get?_normalAgent (p : Policy) (v : Json) (key : String) :
    (p.normalAgent v).get? key = (v.get? key).map p.normalCase :=
  get?_onMembers_map (fun _ => p.normalCase) v key

/-- Of a record only the volatile field is lost. -/
theorem get?_normalCase (p : Policy) (v : Json) (field : String) :
    (p.normalCase v).get? field =
      if field = "duration" then none else (v.get? field).map (p.counted field) := by
  cases v with
  | object fields =>
    have kept := Keyed.lookup_filter (fun k => decide (k ≠ volatileField)) field fields
    simp only [normalCase, onMembers, normalRecord, Json.get?_object, normalField_eq_counted,
      Keyed.lookup_map, kept]
    by_cases h : field = "duration" <;> simp [h, volatileField]
  | _ => simp [normalCase, onMembers, Json.get?, Json.members?]

/-! ## Agreement is equality of normal forms -/

theorem increasing_normalRecord (p : Policy) {fields : List (String × Json)}
    (h : Keyed.Increasing fields) : Keyed.Increasing (p.normalRecord fields) :=
  (h.filter _).map fun key value => p.normalField key value

/-- Records are the same in normal form if every field but the volatile one counts the same. -/
theorem same_normalCase_iff (p : Policy) {left right : List (String × Json)}
    (hl : (Json.object left).Ordered) (hr : (Json.object right).Ordered) :
    (p.normalCase (.object left)).same (p.normalCase (.object right)) ↔
      p.AgreeOnFields (.object left) (.object right) := by
  have fields := Json.same_object_iff (p.increasing_normalRecord hl.increasing)
    (p.increasing_normalRecord hr.increasing)
  refine fields.trans (forall_congr' fun field => ?_)
  have found := fun members => p.get?_normalCase (.object members) field
  simp only [normalCase, onMembers, Json.get?_object] at found
  rw [found left, found right]
  by_cases h : field = "duration" <;> simp [h]

/-- Objects whose members are changed by one function are the same if every key leads to nothing in
both, or to values that the function makes the same. -/
theorem same_onMembers_map_iff (f : Json → Json) {v w : Json} {P : Json → Prop}
    (hv : v.Ordered) (hw : w.Ordered) (ov : v.ObjectOf P) (ow : w.ObjectOf P) :
    (onMembers (List.map fun m => (m.1, f m.2)) v).same
        (onMembers (List.map fun m => (m.1, f m.2)) w) ↔
      ∀ key, Option.Rel (fun x y => (f x).same (f y) = true) (v.get? key) (w.get? key) := by
  obtain ⟨left, rfl, -⟩ := ov
  obtain ⟨right, rfl, -⟩ := ow
  have members := Json.same_object_iff (hv.increasing.map fun _ => f)
    (hw.increasing.map fun _ => f)
  refine members.trans (forall_congr' fun key => ?_)
  rw [Keyed.lookup_map (fun _ => f), Keyed.lookup_map (fun _ => f)]
  simp only [Json.get?_object]
  cases Keyed.lookup key left <;> cases Keyed.lookup key right <;> simp

/-- Two documents in the form of results have the same normal form if and only if they agree. -/
theorem same_normalize_iff (p : Policy) {baseline fresh : Json} (hb : baseline.Ordered)
    (hf : fresh.Ordered) (rb : baseline.IsResults) (rf : fresh.IsResults) :
    (p.normalize baseline).same (p.normalize fresh) ↔ p.Agree baseline fresh := by
  rw [normalize_eq, normalize_eq, same_onMembers_map_iff p.normalAgent hb hf rb rf, agree_iff]
  refine forall_congr' fun agent => Json.rel_congr fun x y hx hy => ?_
  refine (same_onMembers_map_iff p.normalCase (hb.get? hx) (hf.get? hy) (rb.get? hx)
    (rf.get? hy)).trans (forall_congr' fun case => Json.rel_congr fun r s hr hs => ?_)
  obtain ⟨left, rfl, -⟩ := (rb.get? hx).get? hr
  obtain ⟨right, rfl, -⟩ := (rf.get? hy).get? hs
  exact p.same_normalCase_iff ((hb.get? hx).get? hr) ((hf.get? hy).get? hs)

/-! ## The verdict -/

/-- The check of the form refuses exactly what is not results. -/
theorem irregularity?_eq_none_iff {v : Json} : Results.irregularity? v = none ↔ v.IsResults := by
  unfold Results.irregularity? Json.IsResults
  cases hv : v.members? with
  | none => simp [Json.not_objectOf hv]
  | some agents =>
    obtain rfl := Json.members?_eq_some_iff.mp hv
    simp only [List.findSome?_eq_none_iff, Json.objectOf_object]
    refine forall₂_congr fun agent _ => ?_
    cases ha : agent.2.members? with
    | none => simp [Json.not_objectOf ha]
    | some cases =>
      rw [Json.members?_eq_some_iff.mp ha]
      simp only [List.findSome?_eq_none_iff, Json.objectOf_object, ite_eq_left_iff]
      refine forall₂_congr fun case _ => ?_
      cases hc : case.2.members? with
      | none => simp [Json.not_objectOf hc]
      | some fields => simp [Json.members?_eq_some_iff.mp hc]

/-- The search for a missing implementation finds none exactly if none is missing. -/
theorem missingAgent?_eq_none_iff {baseline fresh : Json} :
    missingAgent? baseline fresh = none ↔
      ∀ agent, (baseline.get? agent).isSome → (fresh.get? agent).isSome := by
  simp only [missingAgent?, Option.map_eq_none_iff, List.find?_eq_none,
    Json.lookup_members?_getD]
  constructor
  · intro h agent ha
    rw [← Json.lookup_members?_getD, Keyed.isSome_lookup_iff] at ha
    obtain ⟨value, hmem⟩ := ha
    simpa [Option.isSome_iff_ne_none] using h _ hmem
  · intro h m hm
    have there : (baseline.get? m.1).isSome := by
      rw [← Json.lookup_members?_getD, Keyed.isSome_lookup_iff]
      exact ⟨m.2, hm⟩
    simpa [Option.isSome_iff_ne_none] using h m.1 there

/-- Documents that can be compared get a verdict; all others are refused as irregular. -/
theorem verify_cases (p : Policy) (baselineOrigin freshOrigin : String) (baseline fresh : Json) :
    (Json.Comparable baseline fresh ∧
      p.verify baselineOrigin baseline freshOrigin fresh = .ok (p.judge baseline fresh)) ∨
    (¬ Json.Comparable baseline fresh ∧ ∃ path cause,
      p.verify baselineOrigin baseline freshOrigin fresh = .error (.irregular path cause)) := by
  cases hb : Results.irregularity? baseline with
  | some cause =>
    refine .inr ⟨fun h => ?_, baselineOrigin, cause, ?_⟩
    · simp [irregularity?_eq_none_iff.mpr h.baseline_results] at hb
    · simp [verify, checkForm, hb, bind, Except.bind]
  | none =>
    cases hf : Results.irregularity? fresh with
    | some cause =>
      refine .inr ⟨fun h => ?_, freshOrigin, cause, ?_⟩
      · simp [irregularity?_eq_none_iff.mpr h.fresh_results] at hf
      · simp [verify, checkForm, hb, hf, bind, Except.bind]
    | none =>
      cases hm : missingAgent? baseline fresh with
      | some name =>
        refine .inr ⟨fun h => ?_, freshOrigin, .missingAgent name, ?_⟩
        · simp [missingAgent?_eq_none_iff.mpr h.covered] at hm
        · simp [verify, checkForm, hb, hf, hm, bind, Except.bind]
      | none =>
        refine .inl ⟨⟨irregularity?_eq_none_iff.mp hb, irregularity?_eq_none_iff.mp hf,
          missingAgent?_eq_none_iff.mp hm⟩, ?_⟩
        simp [verify, checkForm, hb, hf, hm, bind, Except.bind]

/-- Documents that can be compared are judged by whether they agree. -/
theorem judge_eq_agrees_iff (p : Policy) {baseline fresh : Json} (hb : baseline.Ordered)
    (hf : fresh.Ordered) (h : Json.Comparable baseline fresh) :
    p.judge baseline fresh = .agrees ↔ p.Agree baseline fresh := by
  rw [← p.same_normalize_iff hb hf h.baseline_results h.fresh_results]
  by_cases same : (p.normalize baseline).same (p.normalize fresh) <;> simp [judge, same]

theorem judge_differs_iff (p : Policy) {baseline fresh : Json} :
    (∃ diff, p.judge baseline fresh = .differs diff) ↔ p.judge baseline fresh ≠ .agrees := by
  cases p.judge baseline fresh <;> simp

/-- Comparing is refused, as a matter of form, exactly if the documents cannot be compared.
Otherwise the verdict is a match exactly if the documents agree, and a mismatch in all remaining
situations. -/
theorem verify_verdict (p : Policy) (baselineOrigin freshOrigin : String) {baseline fresh : Json}
    (hb : baseline.Ordered) (hf : fresh.Ordered) :
    let outcome := p.verify baselineOrigin baseline freshOrigin fresh
    ((∃ path cause, outcome = .error (.irregular path cause)) ↔
      ¬ Json.Comparable baseline fresh) ∧
    (Json.Comparable baseline fresh →
      (outcome = .ok .agrees ↔ p.Agree baseline fresh) ∧
      ((∃ diff, outcome = .ok (.differs diff)) ↔ ¬ p.Agree baseline fresh)) := by
  obtain ⟨h, judged⟩ | ⟨h, path, cause, refused⟩ :=
    p.verify_cases baselineOrigin freshOrigin baseline fresh
  · have agrees := p.judge_eq_agrees_iff hb hf h
    simp [judged, h, ← agrees, ← judge_differs_iff]
  · simp [refused, h]

/-- One record, of a case of an implementation that is called like the volatile field. -/
def strictSample : Json :=
  .object [("duration", .object [("1.1.1",
    .object [("behavior", .string "OK"), ("duration", .int 4)])])]

theorem strictSample_ordered : strictSample.Ordered := by
  have fields : "behavior" < "duration" := by decide
  simp only [strictSample, Json.int, Json.Ordered, Json.OrderedMembers, Keyed.increasing_cons,
    Keyed.increasing_nil, List.forall_mem_singleton, List.not_mem_nil, false_implies, implies_true,
    fields, and_self]

/-- The same record without the volatile field and with a laxer status. -/
def laxSample : Json :=
  .object [("duration", .object [("1.1.1", .object [("behavior", .string "NON-STRICT")])])]

/-- A non-strict case against a passing one: the documents agree under the relaxed policy and not
under the strict one. -/
theorem verify_verdict_lax :
    strictSample.Ordered ∧ laxSample.Ordered ∧ Json.Comparable strictSample laxSample ∧
      Agree ⟨true⟩ strictSample laxSample ∧ ¬ strict.Agree strictSample laxSample := by
  have hb := strictSample_ordered
  have hf : laxSample.Ordered := by
    simp [laxSample, Json.Ordered, Json.OrderedMembers, Keyed.increasing_cons]
  have agrees : verify ⟨true⟩ "" strictSample "" laxSample = .ok .agrees := by rfl
  obtain ⟨diff, differs⟩ : ∃ diff, strict.verify "" strictSample "" laxSample =
      .ok (.differs diff) := ⟨_, rfl⟩
  have relaxed := verify_verdict ⟨true⟩ "" "" hb hf
  have exactly := verify_verdict strict "" "" hb hf
  rw [agrees] at relaxed
  rw [differs] at exactly
  have comparable : Json.Comparable strictSample laxSample := by
    by_contra h
    obtain ⟨path, cause, refused⟩ := relaxed.1.mpr h
    cases refused
  exact ⟨hb, hf, comparable, (relaxed.2 comparable).1.mp rfl,
    (exactly.2 comparable).2.mp ⟨_, rfl⟩⟩

end Policy
end ConformanceGate
