import ConformanceGate.Proofs.Comparison.Walk

/-!
# What relaxing takes away

If `NON-STRICT` counts as `OK`, the walk over two documents goes the same way, and what it finds is
what it finds under the strict policy without the places where one side has the status `OK` and the
other `NON-STRICT` (`Policy.places_lax`). So a relaxed verdict hides nothing else
(`Policy.verify_relaxed`).
-/

namespace ConformanceGate

/-- The policy under which `NON-STRICT` counts as `OK`. -/
def Policy.lax : Policy := ⟨true⟩

/-- The sides are the status `OK` and the status `NON-STRICT`. -/
def Opposed (a b : Option Json) : Prop :=
  a = some (.string "OK") ∧ b = some (.string "NON-STRICT") ∨
    a = some (.string "NON-STRICT") ∧ b = some (.string "OK")

/-- A field of a status, in the record of a case, that is `OK` in one document and `NON-STRICT` in
the other. -/
def Json.LaxAt (baseline fresh : Json) (keys : List String) : Prop :=
  ∃ agent case field, keys = [agent, case, field] ∧
    (field = "behavior" ∨ field = "behaviorClose") ∧
    Opposed (baseline.follow? keys) (fresh.follow? keys)

/-! ## Two values -/

namespace Json

@[simp] theorem same_string_iff {v : Json} {s : String} :
    v.same (.string s) ↔ v = .string s := by
  cases v <;> simp [same]

@[simp] theorem string_same_iff {s : String} {v : Json} :
    (string s).same v ↔ v = .string s := by
  cases v with
  | string t => simpa [same] using eq_comm
  | _ => simp [same]

end Json

theorem places_string_left (s : String) (y : Json) :
    places (.string s) y = if (Json.string s).same y then [] else [[]] :=
  places_of_not_objects (by simp)

theorem places_string_right (x : Json) (s : String) :
    places x (.string s) = if x.same (.string s) then [] else [[]] :=
  places_of_not_objects (by simp)

namespace Policy

theorem counted_strict (field : String) : strict.counted field = id := by
  funext v
  simp [counted, strict]

/-- The relaxed policy takes a non-strict status for a passing one. -/
theorem counted_lax_of_status {field : String} (h : field = "behavior" ∨ field = "behaviorClose")
    (v : Json) :
    lax.counted field v = if v.same (.string "NON-STRICT") then .string "OK" else v := by
  have relaxed : lax.relaxed = true := rfl
  simp only [counted, relaxed, h, true_and]

theorem counted_lax_of_not_status {field : String}
    (h : ¬ (field = "behavior" ∨ field = "behaviorClose")) : lax.counted field = id := by
  funext v
  simp [counted, h]

open scoped Classical in
/-- Of two values of a field of a record, the relaxed walk finds what the strict one finds, but for
the values as a whole if they are opposed statuses. -/
theorem placesAt_counted_lax (field : String) (a b : Option Json) :
    placesAt (a.map (lax.counted field)) (b.map (lax.counted field)) =
      (placesAt a b).filter fun keys =>
        ¬ (keys = [] ∧ (field = "behavior" ∨ field = "behaviorClose") ∧ Opposed a b) := by
  by_cases status : field = "behavior" ∨ field = "behaviorClose"
  · cases a with
    | none => cases b <;> simp [Opposed]
    | some x =>
      cases b with
      | none => simp [Opposed]
      | some y =>
        by_cases hx : x = .string "NON-STRICT"
        · by_cases hy : y = .string "NON-STRICT" <;> by_cases ok : y = .string "OK" <;>
            simp [counted_lax_of_status status, places_string_left, Opposed, status, hx, hy, ok]
        · by_cases hy : y = .string "NON-STRICT" <;> by_cases ok : x = .string "OK" <;>
            simp [counted_lax_of_status status, places_string_right, Opposed, status, hx, hy, ok]
  · simp [counted_lax_of_not_status status, status]

end Policy

/-! ## Level by level -/

/-- If two pairs of objects have the same keys, and the walk over the second pair finds below every
key what the walk over the first pair finds there and the filter lets pass, then it does so as a
whole. -/
theorem places_object_filter {left right left' right' : List (String × Json)}
    (hl : Keyed.Increasing left) (hr : Keyed.Increasing right) (hl' : Keyed.Increasing left')
    (hr' : Keyed.Increasing right') (leftKeys : left'.map (·.1) = left.map (·.1))
    (rightKeys : right'.map (·.1) = right.map (·.1)) (keep : List String → Bool)
    (below : ∀ key, placesAt (Keyed.lookup key left') (Keyed.lookup key right') =
      (placesAt (Keyed.lookup key left) (Keyed.lookup key right)).filter
        fun keys => keep (key :: keys)) :
    places (.object left') (.object right') =
      (places (.object left) (.object right)).filter keep := by
  rw [places_object hl hr, places_object hl' hr', leftKeys, rightKeys, List.filter_flatMap]
  refine List.flatMap_congr fun key _ => ?_
  rw [below, List.filter_map]
  rfl

/-- One level further out: both values have the first key, and it leads to two values that are
related at the rest. -/
def Below (R : Json → Json → List String → Prop) (v w : Json) : List String → Prop
  | [] => False
  | key :: keys => ∃ x y, v.get? key = some x ∧ w.get? key = some y ∧ R x y keys

/-- A field of a status, of two records, that is `OK` in one and `NON-STRICT` in the other. -/
def LaxField (v w : Json) (keys : List String) : Prop :=
  ∃ field, keys = [field] ∧ (field = "behavior" ∨ field = "behaviorClose") ∧
    Opposed (v.get? field) (w.get? field)

/-- Two levels below the root the place is that of a status which differs in strictness alone. -/
theorem below_below_laxField_iff {v w : Json} {keys : List String} :
    Below (Below LaxField) v w keys ↔ v.LaxAt w keys := by
  constructor
  · match keys with
    | [] | [_] => simp [Below]
    | agent :: case :: rest =>
      rintro ⟨x, y, hx, hy, r, s, hr, hs, field, rfl, status, opposed⟩
      exact ⟨agent, case, field, rfl, status, by simpa [hx, hy, hr, hs] using opposed⟩
  · rintro ⟨agent, case, field, rfl, status, opposed⟩
    have there : ∀ u : Json, (u.follow? [agent, case, field]).isSome → ∃ x r,
        u.get? agent = some x ∧ x.get? case = some r ∧
          u.follow? [agent, case, field] = r.get? field := by
      intro u h
      cases hx : u.get? agent with
      | none => simp [hx] at h
      | some x =>
        cases hr : x.get? case with
        | none => simp [hx, hr] at h
        | some r => exact ⟨x, r, rfl, hr, by simp [hx, hr]⟩
    have sides : (v.follow? [agent, case, field]).isSome ∧
        (w.follow? [agent, case, field]).isSome := by
      rcases opposed with ⟨a, b⟩ | ⟨a, b⟩ <;> rw [a, b] <;> exact ⟨rfl, rfl⟩
    obtain ⟨x, r, hx, hr, left⟩ := there v sides.1
    obtain ⟨y, s, hy, hs, right⟩ := there w sides.2
    rw [left, right] at opposed
    exact ⟨x, y, hx, hy, r, s, hr, hs, field, rfl, status, opposed⟩

namespace Policy

open scoped Classical in
/-- The walk over two records. -/
theorem places_normalCase_lax {v w : Json} {P : Json → Prop} (hv : v.Ordered) (hw : w.Ordered)
    (ov : v.ObjectOf P) (ow : w.ObjectOf P) :
    places (lax.normalCase v) (lax.normalCase w) =
      (places (strict.normalCase v) (strict.normalCase w)).filter fun keys =>
        ¬ LaxField v w keys := by
  obtain ⟨left, rfl, -⟩ := ov
  obtain ⟨right, rfl, -⟩ := ow
  have fields (fields : List (String × Json)) :
      (lax.normalRecord fields).map (·.1) = (strict.normalRecord fields).map (·.1) := by
    simp [normalRecord, Function.comp_def]
  refine places_object_filter (strict.increasing_normalRecord hv.increasing)
    (strict.increasing_normalRecord hw.increasing) (lax.increasing_normalRecord hv.increasing)
    (lax.increasing_normalRecord hw.increasing) (fields left) (fields right) _ fun field => ?_
  have found (p : Policy) (members : List (String × Json)) :=
    p.get?_normalCase (.object members) field
  simp only [normalCase, onMembers, Json.get?_object] at found
  rw [found, found, found, found]
  by_cases volatile : field = "duration"
  · simp [volatile]
  · have counted := placesAt_counted_lax field (Keyed.lookup field left) (Keyed.lookup field right)
    simpa [volatile, counted_strict, LaxField] using counted

open scoped Classical in
/-- What relaxing takes away from the walk over the members of two objects, it takes away from the
walk over the objects, one level further out. -/
theorem places_onMembers_map {f g : Json → Json} {R : Json → Json → List String → Prop}
    {P : Json → Prop} (inside : ∀ x y : Json, x.Ordered → y.Ordered → P x → P y →
      places (g x) (g y) = (places (f x) (f y)).filter fun keys => ¬ R x y keys)
    {v w : Json} (hv : v.Ordered) (hw : w.Ordered) (ov : v.ObjectOf P) (ow : w.ObjectOf P) :
    places (onMembers (List.map fun m => (m.1, g m.2)) v)
        (onMembers (List.map fun m => (m.1, g m.2)) w) =
      (places (onMembers (List.map fun m => (m.1, f m.2)) v)
        (onMembers (List.map fun m => (m.1, f m.2)) w)).filter fun keys => ¬ Below R v w keys := by
  have inLeft (key : String) (x : Json) (hx : v.get? key = some x) : P x := ov.get? hx
  have inRight (key : String) (x : Json) (hx : w.get? key = some x) : P x := ow.get? hx
  obtain ⟨left, rfl, -⟩ := ov
  obtain ⟨right, rfl, -⟩ := ow
  refine places_object_filter (hv.increasing.map fun _ => f) (hw.increasing.map fun _ => f)
    (hv.increasing.map fun _ => g) (hw.increasing.map fun _ => g) (by simp [Function.comp_def])
    (by simp [Function.comp_def]) _ fun key => ?_
  simp only [Keyed.lookup_map (fun _ => f), Keyed.lookup_map (fun _ => g)]
  cases ha : Keyed.lookup key left with
  | none => cases hb : Keyed.lookup key right <;> simp [Below, ha]
  | some x =>
    cases hb : Keyed.lookup key right with
    | none => simp [Below, hb]
    | some y =>
      have found := inside x y (hv.get? ha) (hw.get? hb) (inLeft key x ha) (inRight key y hb)
      simpa [Below, ha, hb] using found

open scoped Classical in
/-- The relaxed walk finds what the strict one finds, but for the opposed statuses of records. -/
theorem places_lax {baseline fresh : Json} (hb : baseline.Ordered) (hf : fresh.Ordered)
    (rb : baseline.IsResults) (rf : fresh.IsResults) :
    places (lax.normalize baseline) (lax.normalize fresh) =
      (places (strict.normalize baseline) (strict.normalize fresh)).filter fun keys =>
        ¬ baseline.LaxAt fresh keys := by
  have records (x y : Json) (hx : x.Ordered) (hy : y.Ordered)
      (ox : x.ObjectOf fun _ => True) (oy : y.ObjectOf fun _ => True) :=
    places_normalCase_lax hx hy ox oy
  have agents (x y : Json) (hx : x.Ordered) (hy : y.Ordered)
      (ox : x.ObjectOf (Json.ObjectOf fun _ => True))
      (oy : y.ObjectOf (Json.ObjectOf fun _ => True)) :=
    places_onMembers_map records hx hy ox oy
  have documents := places_onMembers_map agents hb hf rb rf
  simp only [below_below_laxField_iff] at documents
  exact documents

end Policy

/-! ## Which places are lost -/

namespace Json

/-- All along the way to a value there are objects. -/
theorem objectAt_of_follow? {v found : Json} {keys front : List String}
    (h : v.follow? keys = some found) (hfront : front <+: keys) (hne : front ≠ keys) :
    v.ObjectAt front := by
  induction front generalizing v keys with
  | nil =>
    cases keys with
    | nil => exact absurd rfl hne
    | cons key keys =>
      cases hv : v.members? with
      | none => simp [get?_eq_none_of_members? hv] at h
      | some members => exact objectAt_nil.mpr ⟨members, members?_eq_some_iff.mp hv⟩
  | cons key front ih =>
    obtain ⟨rest, rfl⟩ := hfront
    obtain ⟨next, there, h⟩ := Option.bind_eq_some_iff.mp h
    have further : front ≠ front ++ rest := fun same => hne (congrArg (key :: ·) same)
    exact objectAt_cons.mpr ⟨next, there, ih h ⟨rest, rfl⟩ further⟩

/-- Where two documents hold different strings they differ. -/
theorem differsAt_of_strings {left right : Json} {keys : List String} {s t : String}
    (hl : left.follow? keys = some (.string s)) (hr : right.follow? keys = some (.string t))
    (hne : s ≠ t) : left.DiffersAt right keys where
  way front hfront hne :=
    ⟨objectAt_of_follow? hl hfront hne, objectAt_of_follow? hr hfront hne⟩
  unlike := by simpa [hl, hr] using hne
  notObjects := by simp [ObjectAt, hl]

/-- Where statuses are opposed, the strict normal forms differ. -/
theorem LaxAt.differsAt {baseline fresh : Json} {keys : List String}
    (h : baseline.LaxAt fresh keys) :
    (Policy.strict.normalize baseline).DiffersAt (Policy.strict.normalize fresh) keys := by
  obtain ⟨agent, case, field, rfl, status, opposed⟩ := h
  have kept (v : Json) : (Policy.strict.normalize v).follow? [agent, case, field] =
      v.follow? [agent, case, field] := by
    have stays : field ≠ "duration" := by rcases status with rfl | rfl <;> decide
    simp only [follow?_cons, Policy.get?_normalize, Option.bind_map, Function.comp_def,
      Policy.get?_normalAgent, Policy.get?_normalCase, stays, if_false, Policy.counted_strict,
      Option.map_id, id]
  rw [← kept baseline, ← kept fresh] at opposed
  rcases opposed with ⟨left, right⟩ | ⟨left, right⟩
  · exact differsAt_of_strings left right (by decide)
  · exact differsAt_of_strings left right (by decide)

end Json

namespace Policy

/-- Documents that are judged under one policy are judged under any. Both verdicts report places
where the normal forms differ, and what the relaxed one reports is the report of the strict one
without the opposed statuses of records, in the same order. So a strict match is a relaxed match,
and a place that only one side has, or where the status is `FAILED` on a side, is not lost. -/
theorem verify_relaxed (p : Policy) (baselineOrigin freshOrigin : String) {baseline fresh : Json}
    (hb : baseline.Ordered) (hf : fresh.Ordered) {verdict : Verdict}
    (h : p.verify baselineOrigin baseline freshOrigin fresh = .ok verdict) :
    ∃ exactly laxly, strict.verify baselineOrigin baseline freshOrigin fresh = .ok exactly ∧
      lax.verify baselineOrigin baseline freshOrigin fresh = .ok laxly ∧
      ∃ found kept,
        Reported (strict.normalize baseline) (strict.normalize fresh) exactly.differences found ∧
        Reported (lax.normalize baseline) (lax.normalize fresh) laxly.differences kept ∧
        kept.Sublist found ∧
        (∀ keys, keys ∈ found ∧ keys ∉ kept ↔ baseline.LaxAt fresh keys) ∧
        (exactly = .agrees → laxly = .agrees) ∧
        ∀ keys ∈ found, baseline.follow? keys = none ∨ fresh.follow? keys = none ∨
          baseline.follow? keys = some (.string "FAILED") ∨
          fresh.follow? keys = some (.string "FAILED") → keys ∈ kept := by
  classical
  obtain ⟨comparable, judged⟩ := verify_eq_judge h
  have exactly := strict.reported_judge hb hf
  have laxly := lax.reported_judge hb hf
  have filtered := places_lax hb hf comparable.baseline_results comparable.fresh_results
  have lost (keys : List String) :
      keys ∈ places (strict.normalize baseline) (strict.normalize fresh) ∧
        keys ∉ places (lax.normalize baseline) (lax.normalize fresh) ↔
      baseline.LaxAt fresh keys := by
    rw [filtered, List.mem_filter, exactly.mem_iff]
    constructor
    · rintro ⟨differs, out⟩
      simpa [differs] using out
    · intro opposed
      exact ⟨opposed.differsAt, by simp [opposed]⟩
  refine ⟨_, _, judged strict, judged lax, _, _, exactly, laxly, ?_, lost, ?_, ?_⟩
  · rw [filtered]
    exact List.filter_sublist
  · intro agrees
    refine lax.judge_eq_agrees_of_differences hb hf ?_
    have nowhere := exactly.shown
    rw [agrees] at nowhere
    rw [laxly.shown, filtered, List.map_eq_nil_iff.mp nowhere.symm]
    rfl
  · intro keys hfound side
    by_contra out
    obtain ⟨agent, case, field, rfl, -, opposed⟩ := (lost keys).mp ⟨hfound, out⟩
    rcases opposed with ⟨a, b⟩ | ⟨a, b⟩ <;> simp [a, b] at side

/-- What became of the one record of `strictSample`: its status is laxer, and a case is new. -/
def laxerSample : Json :=
  .object [("duration", .object [("1.1.1", .object [("behavior", .string "NON-STRICT")]),
    ("1.1.2", .object [])])]

/-- One status differs in strictness alone, and one case stands on one side only: the relaxed policy
reports nothing but the case. -/
theorem verify_relaxed_laxer :
    strictSample.Ordered ∧ laxerSample.Ordered ∧
      ∃ exactly laxly, strict.verify "" strictSample "" laxerSample = .ok exactly ∧
        lax.verify "" strictSample "" laxerSample = .ok laxly ∧
        exactly.differences.map (·.path) = ["/duration/1.1.1/behavior", "/duration/1.1.2"] ∧
        laxly.differences.map (·.path) = ["/duration/1.1.2"] ∧
        ∃ found kept : List (List String), kept.Sublist found ∧
          ∀ keys, keys ∈ found ∧ keys ∉ kept ↔ strictSample.LaxAt laxerSample keys := by
  have ordered : laxerSample.Ordered := by
    have cases : "1.1.1" < "1.1.2" := by decide
    simp only [laxerSample, Json.Ordered, Json.OrderedMembers, Keyed.increasing_cons,
      Keyed.increasing_nil, List.forall_mem_singleton, List.not_mem_nil, false_implies,
      implies_true, cases, and_self]
  have strictly : strict.verify "" strictSample "" laxerSample = .ok (.differs
      ⟨[⟨"/duration/1.1.1/behavior", some (.string "OK"), some (.string "NON-STRICT")⟩,
        ⟨"/duration/1.1.2", none, some (.object [])⟩]⟩) := by cbv
  have relaxed : lax.verify "" strictSample "" laxerSample =
      .ok (.differs ⟨[⟨"/duration/1.1.2", none, some (.object [])⟩]⟩) := by cbv
  obtain ⟨exactly, laxly, first, second, found, kept, -, -, sublist, lost, -⟩ :=
    verify_relaxed strict "" "" strictSample_ordered ordered strictly
  rw [strictly] at first
  rw [relaxed] at second
  obtain rfl := Except.ok.inj first
  obtain rfl := Except.ok.inj second
  exact ⟨strictSample_ordered, ordered, _, _, strictly, relaxed, rfl, rfl, found, kept, sublist,
    lost⟩

end Policy
end ConformanceGate
