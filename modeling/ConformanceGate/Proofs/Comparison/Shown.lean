import ConformanceGate.Proofs.Comparison.Walk

/-!
# What the JSON of a mismatch shows

A side of a difference that holds nothing is shown as `null`, and so is a side that holds `null`.
All else is told apart: mismatches have the same JSON exactly if they differ in nothing else
(`Policy.verify_toJson`). So the JSON tells the differences of documents without `null`.
-/

namespace ConformanceGate

namespace Json

/-! ## Values without `null` -/

mutual

/-- Neither the value nor a member of an object in it is `null`. Items of arrays may be. -/
def NullFree : Json → Prop
  | .null => False
  | .object members => NullFreeMembers members
  | _ => True

/-- No value of a member has a `null`. -/
def NullFreeMembers : List (String × Json) → Prop
  | [] => True
  | (_, value) :: rest => NullFree value ∧ NullFreeMembers rest

end

theorem nullFreeMembers_iff {members : List (String × Json)} :
    NullFreeMembers members ↔ ∀ m ∈ members, m.2.NullFree := by
  induction members with
  | nil => simp [NullFreeMembers]
  | cons m rest ih => simp [NullFreeMembers, ih]

theorem nullFree_object_iff {members : List (String × Json)} :
    (object members).NullFree ↔ ∀ m ∈ members, m.2.NullFree := by
  rw [NullFree, nullFreeMembers_iff]

theorem NullFree.follow?_ne_null {v : Json} (h : v.NullFree) (keys : List String) :
    v.follow? keys ≠ some .null := fun hf =>
  holds_of_follow? (P := NullFree) (fun _ => nullFree_object_iff.mp) h hf

theorem Whole.follow? {v found : Json} {keys : List String} (h : v.Whole)
    (hf : v.follow? keys = some found) : found.Whole :=
  holds_of_follow? (fun _ => whole_object_iff.mp) h hf

end Json

theorem Policy.nullFree_normalize (p : Policy) {v : Json} (h : v.NullFree) :
    (p.normalize v).NullFree :=
  have levelled : Levelled (fun _ => Json.NullFree) fun _ => True :=
    ⟨by simp [Json.nullFree_object_iff], fun _ _ => trivial⟩
  @Levelled.normalize p _ _ 0 v levelled h

/-! ## Two differences -/

/-- The same stands on both sides, or nothing on one and `null` on the other. -/
inductive ShownAlike : Option Json → Option Json → Prop
  | same (a : Option Json) : ShownAlike a a
  | gone : ShownAlike (some .null) none
  | come : ShownAlike none (some .null)

/-- Two sides have the same JSON exactly if they are shown alike. -/
theorem getD_null_eq_iff {a b : Option Json} :
    a.getD .null = b.getD .null ↔ ShownAlike a b := by
  constructor
  · intro h
    cases a with
    | none =>
      cases b with
      | none => exact .same none
      | some y =>
        obtain rfl : .null = y := h
        exact .come
    | some x =>
      cases b with
      | none =>
        obtain rfl : x = .null := h
        exact .gone
      | some y =>
        obtain rfl : x = y := h
        exact .same _
  · rintro (_ | _ | _) <;> rfl

theorem shownAlike_iff_eq {a b : Option Json} (ha : a ≠ some .null) (hb : b ≠ some .null) :
    ShownAlike a b ↔ a = b := by
  constructor
  · rintro (_ | _ | _)
    · rfl
    · exact absurd rfl ha
    · exact absurd rfl hb
  · rintro rfl
    exact .same a

/-- Sides that are not the same are shown alike only if one holds nothing and the other `null`. -/
theorem shownAlike_iff_of_unlike {a b : Option Json} (h : ¬ Json.Alike a b) :
    ShownAlike a b ↔ a = none ∧ b = some .null ∨ a = some .null ∧ b = none := by
  constructor
  · rintro (_ | _ | _)
    · refine absurd ?_ h
      cases a <;> simp
    · exact .inr ⟨rfl, rfl⟩
    · exact .inl ⟨rfl, rfl⟩
  · rintro (⟨rfl, rfl⟩ | ⟨rfl, rfl⟩)
    · exact .come
    · exact .gone

namespace Difference

/-- The differences are of one path, and each side of one is shown like that of the other. -/
structure Like (d e : Difference) : Prop where
  path : d.path = e.path
  baseline : ShownAlike d.baseline e.baseline
  fresh : ShownAlike d.fresh e.fresh

/-- Differences have the same JSON exactly if they are shown alike. -/
theorem toJson_eq_iff {d e : Difference} : d.toJson = e.toJson ↔ d.Like e := by
  simp only [toJson, Json.object.injEq, List.cons.injEq, Prod.mk.injEq, true_and, and_true,
    Json.string.injEq, getD_null_eq_iff]
  exact ⟨fun h => ⟨h.1, h.2.1, h.2.2⟩, fun h => ⟨h.path, h.baseline, h.fresh⟩⟩

/-- No side holds `null`. -/
def NullFree (d : Difference) : Prop := d.baseline ≠ some .null ∧ d.fresh ≠ some .null

theorem like_iff_eq {d e : Difference} (hd : d.NullFree) (he : e.NullFree) :
    d.Like e ↔ d = e := by
  constructor
  · rintro ⟨path, baseline, fresh⟩
    rw [shownAlike_iff_eq hd.1 he.1] at baseline
    rw [shownAlike_iff_eq hd.2 he.2] at fresh
    cases d
    cases e
    simp_all
  · rintro rfl
    exact ⟨rfl, .same _, .same _⟩

/-- Both sides of a difference have a place in its JSON. -/
theorem get?_toJson (d : Difference) :
    d.toJson.get? "baseline" = some (d.baseline.getD .null) ∧
      d.toJson.get? "fresh" = some (d.fresh.getD .null) := by
  constructor <;> rfl

end Difference

/-! ## Two mismatches -/

/-- Mismatches have the same JSON exactly if their differences are shown alike one by one. -/
theorem Verdict.toJson_differs_eq_iff {d e : Diff} :
    (Verdict.differs d).toJson = (Verdict.differs e).toJson ↔
      List.Forall₂ Difference.Like d.entries e.entries := by
  simp only [toJson, Diff.toJson, Json.object.injEq, List.cons.injEq, Prod.mk.injEq, true_and,
    and_true, Json.array.injEq, map_eq_map_iff_forall₂, Difference.toJson_eq_iff]

theorem forall₂_like_iff_eq {ds es : List Difference} (hd : ∀ d ∈ ds, d.NullFree)
    (he : ∀ e ∈ es, e.NullFree) : List.Forall₂ Difference.Like ds es ↔ ds = es := by
  induction ds generalizing es with
  | nil => cases es <;> simp
  | cons d ds ih =>
    cases es with
    | nil => simp
    | cons e es =>
      obtain ⟨hd, hds⟩ := List.forall_mem_cons.mp hd
      obtain ⟨he, hes⟩ := List.forall_mem_cons.mp he
      rw [List.forall₂_cons, Difference.like_iff_eq hd he, ih hds hes, List.cons.injEq]

/-- What is reported of documents without `null` has no `null`. -/
theorem Reported.nullFree {left right : Json} {differences : List Difference}
    {places : List (List String)} (h : Reported left right differences places)
    (hl : left.NullFree) (hr : right.NullFree) : ∀ d ∈ differences, d.NullFree := by
  intro d hd
  rw [h.shown] at hd
  obtain ⟨keys, -, rfl⟩ := List.mem_map.mp hd
  exact ⟨hl.follow?_ne_null keys, hr.follow?_ne_null keys⟩

/-- The sides of a reported difference are not the same. -/
theorem Reported.unlike {left right : Json} {differences : List Difference}
    {places : List (List String)} (h : Reported left right differences places) :
    ∀ d ∈ differences, ¬ Json.Alike d.baseline d.fresh := by
  intro d hd
  rw [h.shown] at hd
  obtain ⟨keys, found, rfl⟩ := List.mem_map.mp hd
  exact ((h.mem_iff keys).mp found).unlike

/-- What is reported of documents with whole numbers only has whole numbers only. -/
theorem Reported.whole {left right : Json} {differences : List Difference}
    {places : List (List String)} (h : Reported left right differences places)
    (hl : left.Whole) (hr : right.Whole) : (Verdict.differs ⟨differences⟩).toJson.Whole := by
  have side {v : Json} (whole : v.Whole) (keys : List String) :
      ((v.follow? keys).getD .null).Whole := by
    cases hf : v.follow? keys with
    | none => trivial
    | some found => exact whole.follow? hf
  have entry : ∀ d ∈ differences, d.toJson.Whole := by
    intro d hd
    rw [h.shown] at hd
    obtain ⟨keys, -, rfl⟩ := List.mem_map.mp hd
    simpa [Difference.toJson, Json.Whole, Json.WholeMembers] using ⟨side hl keys, side hr keys⟩
  simpa [Verdict.toJson, Diff.toJson, Json.Whole, Json.WholeMembers, Json.wholeItems_iff] using
    entry

namespace Policy

/-- The JSON of mismatches is the same exactly if they list the same paths with sides that are
shown alike: the same on both, or nothing on one and `null` on the other. A reported difference
shows the same on both of its sides exactly if one of them holds nothing and the other `null`. So
without `null` in the documents the JSON tells the differences, and none shows the same twice. With
whole numbers only, the text of the JSON tells as much as the JSON. -/
theorem verify_toJson (p q : Policy) {baseline fresh baseline' fresh' : Json}
    (hb : baseline.Ordered) (hf : fresh.Ordered) (hb' : baseline'.Ordered) (hf' : fresh'.Ordered)
    {b f b' f' : String} {diff diff' : Diff}
    (h : p.verify b baseline f fresh = .ok (.differs diff))
    (h' : q.verify b' baseline' f' fresh' = .ok (.differs diff')) :
    let json := (Verdict.differs diff).toJson
    let json' := (Verdict.differs diff').toJson
    (json = json' ↔ List.Forall₂ Difference.Like diff.entries diff'.entries) ∧
    (∀ d ∈ diff.entries, d.toJson.get? "baseline" = d.toJson.get? "fresh" ↔
      d.baseline = none ∧ d.fresh = some .null ∨ d.baseline = some .null ∧ d.fresh = none) ∧
    (baseline.NullFree → fresh.NullFree → baseline'.NullFree → fresh'.NullFree →
      (json = json' ↔ diff = diff') ∧
      ∀ d ∈ diff.entries, d.toJson.get? "baseline" ≠ d.toJson.get? "fresh") ∧
    (baseline.Whole → fresh.Whole → baseline'.Whole → fresh'.Whole →
      (json.pretty = json'.pretty ↔ json = json')) := by
  intro json json'
  obtain ⟨-, -, rfl⟩ := verify_eq_differs h
  obtain ⟨-, -, rfl⟩ := verify_eq_differs h'
  have reported := reported_between (p.ordered_normalize hb) (p.ordered_normalize hf)
  have reported' := reported_between (q.ordered_normalize hb') (q.ordered_normalize hf')
  have blurred : ∀ d ∈ (Diff.between (p.normalize baseline) (p.normalize fresh)).entries,
      d.toJson.get? "baseline" = d.toJson.get? "fresh" ↔
        d.baseline = none ∧ d.fresh = some .null ∨ d.baseline = some .null ∧ d.fresh = none := by
    intro d hd
    obtain ⟨baseline, fresh⟩ := d.get?_toJson
    rw [baseline, fresh, Option.some.injEq, getD_null_eq_iff]
    exact shownAlike_iff_of_unlike (reported.unlike d hd)
  refine ⟨Verdict.toJson_differs_eq_iff, blurred, fun nb nf nb' nf' => ?_, fun wb wf wb' wf' => ?_⟩
  · have free := reported.nullFree (p.nullFree_normalize nb) (p.nullFree_normalize nf)
    have free' := reported'.nullFree (q.nullFree_normalize nb') (q.nullFree_normalize nf')
    constructor
    · rw [Verdict.toJson_differs_eq_iff, forall₂_like_iff_eq free free']
      exact (Diff.mk.injEq ..).to_iff.symm
    · intro d hd same
      rcases (blurred d hd).mp same with ⟨-, fresh⟩ | ⟨baseline, -⟩
      · exact (free d hd).2 fresh
      · exact (free d hd).1 baseline
  · exact Json.pretty_inj (reported.whole (p.whole_normalize wb) (p.whole_normalize wf))
      (reported'.whole (q.whole_normalize wb') (q.whole_normalize wf'))

/-- A case of an implementation, with the status `OK` and what else its record has. -/
def recordSample (more : List (String × Json)) : Json :=
  .object [("a", .object [("1.1.1", .object (("behavior", .string "OK") :: more))])]

theorem recordSample_ordered (v : Json) (h : v.Ordered) :
    (recordSample [("remoteCloseCode", v)]).Ordered := by
  have fields : "behavior" < "remoteCloseCode" := by decide
  simp only [recordSample, Json.Ordered, Json.OrderedMembers, Keyed.increasing_cons,
    Keyed.increasing_nil, List.forall_mem_singleton, List.not_mem_nil, false_implies, implies_true,
    fields, h, and_self]

theorem recordSample_nil_ordered : (recordSample []).Ordered := by
  simp [recordSample, Json.Ordered, Json.OrderedMembers, Keyed.increasing_cons]

theorem verify_codeLost :
    strict.verify "" (recordSample [("remoteCloseCode", .int 1000)]) "" (recordSample []) =
      .ok (.differs ⟨[⟨"/a/1.1.1/remoteCloseCode", some (.int 1000), none⟩]⟩) := by
  change Except.ok (Verdict.differs (.between (strict.normalize _) (strict.normalize _))) = _
  cbv

theorem verify_codeChanged :
    strict.verify "" (recordSample [("remoteCloseCode", .int 1000)]) ""
        (recordSample [("remoteCloseCode", .int 1002)]) =
      .ok (.differs ⟨[⟨"/a/1.1.1/remoteCloseCode", some (.int 1000), some (.int 1002)⟩]⟩) := by
  change Except.ok (Verdict.differs (.between (strict.normalize _) (strict.normalize _))) = _
  cbv

/-- A code that was lost and a code that is another. -/
theorem verify_toJson_codes :
    let code (n : Int) := recordSample [("remoteCloseCode", .int n)]
    ∃ diff diff', strict.verify "" (code 1000) "" (recordSample []) = .ok (.differs diff) ∧
      strict.verify "" (code 1000) "" (code 1002) = .ok (.differs diff') ∧
      (∀ n, (code n).Ordered ∧ (code n).NullFree) ∧ (code 1000).Whole ∧ (code 1002).Whole ∧
      (recordSample []).Ordered ∧ (recordSample []).NullFree ∧ (recordSample []).Whole ∧
      diff ≠ diff' ∧
      (Verdict.differs diff).toJson.pretty ≠ (Verdict.differs diff').toJson.pretty := by
  intro code
  have ordered (n : Int) : (code n).Ordered := recordSample_ordered _ trivial
  have free (n : Int) : (code n).NullFree := by
    simp [code, recordSample, Json.NullFree, Json.NullFreeMembers, Json.int]
  have whole (n : Int) (low : -2 ^ 63 ≤ n) (high : n < 2 ^ 64) : (code n).Whole := by
    simpa [code, recordSample, Json.Whole, Json.WholeMembers, Json.int] using
      Number.Whole.integer low high
  have bareFree : (recordSample []).NullFree := by
    simp [recordSample, Json.NullFree, Json.NullFreeMembers]
  have bareWhole : (recordSample []).Whole := by
    simp [recordSample, Json.Whole, Json.WholeMembers]
  have first := whole 1000 (by decide) (by decide)
  have second := whole 1002 (by decide) (by decide)
  obtain ⟨-, -, tells, texts⟩ := verify_toJson strict strict (ordered 1000)
    recordSample_nil_ordered (ordered 1000) (ordered 1002) verify_codeLost verify_codeChanged
  have different : (⟨[⟨"/a/1.1.1/remoteCloseCode", some (.int 1000), none⟩]⟩ : Diff) ≠
      ⟨[⟨"/a/1.1.1/remoteCloseCode", some (.int 1000), some (.int 1002)⟩]⟩ := by simp
  refine ⟨_, _, verify_codeLost, verify_codeChanged, fun n => ⟨ordered n, free n⟩, first, second,
    recordSample_nil_ordered, bareFree, bareWhole, different, fun same => different ?_⟩
  have sameJson := (texts first bareWhole first second).mp same
  exact (tells (free _) bareFree (free _) (free _)).1.mp sameJson

theorem verify_nullLost :
    strict.verify "" (recordSample [("remoteCloseCode", .null)]) "" (recordSample []) =
      .ok (.differs ⟨[⟨"/a/1.1.1/remoteCloseCode", some .null, none⟩]⟩) := by
  change Except.ok (Verdict.differs (.between (strict.normalize _) (strict.normalize _))) = _
  cbv

theorem verify_nullFound :
    strict.verify "" (recordSample []) "" (recordSample [("remoteCloseCode", .null)]) =
      .ok (.differs ⟨[⟨"/a/1.1.1/remoteCloseCode", none, some .null⟩]⟩) := by
  change Except.ok (Verdict.differs (.between (strict.normalize _) (strict.normalize _))) = _
  cbv

/-- A code that is `null` is lost, and the other way round: what is reported of the one and of the
other is not the same, and is not the same as a text, but it has the same JSON, which shows `null`
on both sides. -/
theorem verify_toJson_null :
    let coded := recordSample [("remoteCloseCode", .null)]
    ∃ diff diff', strict.verify "" coded "" (recordSample []) = .ok (.differs diff) ∧
      strict.verify "" (recordSample []) "" coded = .ok (.differs diff') ∧
      diff ≠ diff' ∧ diff.text ≠ diff'.text ∧
      (Verdict.differs diff).toJson = (Verdict.differs diff').toJson ∧
      ∃ d ∈ diff.entries, d.toJson.get? "baseline" = some .null ∧
        d.toJson.get? "fresh" = some .null :=
  ⟨_, _, verify_nullLost, verify_nullFound, by simp, by decide +kernel, rfl, _,
    List.mem_singleton_self _, rfl, rfl⟩

end Policy
end ConformanceGate
