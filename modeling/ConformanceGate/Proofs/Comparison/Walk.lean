import ConformanceGate.Proofs.Comparison.Canonical
import ConformanceGate.Proofs.Comparison.Differences
import Mathlib

/-!
# Key by key through two documents

What the walk over two objects finds is put together from what it finds under each of their keys, in
the order of case keys (`changes_object`). Of two documents in the form of results it ends either at
an implementation that only the second one has, or below a case of an implementation that both have
(`Json.differsAt_results_iff`).
-/

namespace ConformanceGate

/-! ## Where documents differ -/

namespace Json

/-- What objects hand down to their members, a value hands down to all its places. -/
theorem holds_of_follow? {P : Json → Prop}
    (handedDown : ∀ members, P (.object members) → ∀ m ∈ members, P m.2) {v found : Json}
    {keys : List String} (h : P v) (hf : v.follow? keys = some found) : P found := by
  induction keys generalizing v with
  | nil =>
    obtain rfl : v = found := by simpa using hf
    exact h
  | cons key keys ih =>
    obtain ⟨next, there, rest⟩ := Option.bind_eq_some_iff.mp hf
    cases v with
    | object members => exact ih (handedDown members h _ (Keyed.mem_of_lookup there)) rest
    | _ => cases there

/-- What a place of an ordered value holds is ordered. -/
theorem Ordered.follow? {v found : Json} {keys : List String} (h : v.Ordered)
    (hf : v.follow? keys = some found) : found.Ordered :=
  holds_of_follow? (fun _ ordered m => (ordered_object_iff.mp ordered).2 m.1 m.2) h hf

/-- Keys lead to the same in values that are the same. -/
theorem alike_get?_of_same {left right : Json} (hl : left.Ordered) (hr : right.Ordered)
    (same : left.same right) (key : String) : Alike (left.get? key) (right.get? key) := by
  cases left <;> cases right <;> simp [Json.same] at same
  case object.object members others =>
    have members := same_object_iff hl.increasing hr.increasing
    exact members.mp (by simpa [Json.same] using same) key
  all_goals simp [Json.get?, members?]

/-- Values that are the same hold the same at every place. -/
theorem alike_follow?_of_same {left right : Json} (hl : left.Ordered) (hr : right.Ordered)
    (same : left.same right) (keys : List String) :
    Alike (left.follow? keys) (right.follow? keys) := by
  induction keys generalizing left right with
  | nil => simpa using same
  | cons key keys ih =>
    have below := alike_get?_of_same hl hr same key
    rw [follow?_cons, follow?_cons]
    cases ha : left.get? key <;> cases hb : right.get? key <;> rw [ha, hb] at below
    · exact .none
    · exact absurd below not_alike_none_some
    · exact absurd below not_alike_some_none
    · exact ih (hl.get? ha) (hr.get? hb) (alike_some.mp below)

/-- Documents differ somewhere exactly if they are not the same. -/
theorem exists_differsAt_iff {left right : Json} (hl : left.Ordered) (hr : right.Ordered) :
    (∃ keys, left.DiffersAt right keys) ↔ ¬ left.same right := by
  constructor
  · rintro ⟨keys, differs⟩ same
    exact differs.unlike (alike_follow?_of_same hl hr same keys)
  · intro unlike
    obtain ⟨c, hc⟩ := List.exists_mem_of_ne_nil _ fun none : changes left right = [] =>
      Diff.between_ne_nil hl hr unlike (by simp [Diff.between, none])
    exact ⟨c.keys, ((mem_changes_iff hl hr).mp hc).differs⟩

/-- Below a key documents differ somewhere exactly if the key does not lead to the same. -/
theorem exists_differsBelow_iff {a b : Option Json} (ha : ∀ x, a = some x → x.Ordered)
    (hb : ∀ y, b = some y → y.Ordered) : (∃ keys, DiffersBelow a b keys) ↔ ¬ Alike a b := by
  cases a with
  | none => cases b <;> simp [DiffersBelow]
  | some x =>
    cases b with
    | none => simp [DiffersBelow]
    | some y => simpa [DiffersBelow] using exists_differsAt_iff (ha x rfl) (hb y rfl)

/-- An implementation of both documents and a case key that does not lead to the same in both. -/
structure ChangedCase (left right : Json) (agent case : String) : Prop where
  inLeft : (left.get? agent).isSome
  inRight : (right.get? agent).isSome
  unlike : ¬ Alike (left.follow? [agent, case]) (right.follow? [agent, case])

/-- An implementation that only the second document has. -/
structure NewAgent (left right : Json) (agent : String) : Prop where
  notInLeft : left.get? agent = none
  inRight : (right.get? agent).isSome

theorem newAgent_iff {left right : Json} {agent : String} :
    NewAgent left right agent ↔ left.get? agent = none ∧ (right.get? agent).isSome :=
  ⟨fun h => ⟨h.notInLeft, h.inRight⟩, fun h => ⟨h.1, h.2⟩⟩

/-- Objects of objects of which the second has all keys of the first differ at a key that only the
second has, or below a key of a key that both have. -/
theorem differsAt_results_iff {left right : Json} (comparable : Comparable left right)
    {keys : List String} :
    left.DiffersAt right keys ↔
      (∃ agent, keys = [agent] ∧ NewAgent left right agent) ∨
      ∃ agent case rest, keys = agent :: case :: rest ∧
        (left.get? agent).isSome ∧ (right.get? agent).isSome ∧
        DiffersBelow (left.follow? [agent, case]) (right.follow? [agent, case]) rest := by
  obtain ⟨agents, rfl, inside⟩ := comparable.baseline_results
  obtain ⟨others, rfl, inside'⟩ := comparable.fresh_results
  cases keys with
  | nil => simp [differsAt_nil]
  | cons agent rest =>
    have covered := comparable.covered agent
    rw [differsAt_cons]
    cases ha : Keyed.lookup agent agents with
    | none =>
      cases hb : Keyed.lookup agent others with
      | none => simp [DiffersBelow, newAgent_iff, ha, hb]
      | some y => simp [DiffersBelow, newAgent_iff, ha, hb]
    | some x =>
      cases hb : Keyed.lookup agent others with
      | none => simp [ha, hb] at covered
      | some y =>
        obtain ⟨cases, rfl, -⟩ := inside _ (Keyed.mem_of_lookup ha)
        obtain ⟨cases', rfl, -⟩ := inside' _ (Keyed.mem_of_lookup hb)
        cases rest with
        | nil => simp [DiffersBelow, differsAt_nil, newAgent_iff, ha]
        | cons case rest => simp [DiffersBelow, differsAt_cons, newAgent_iff, ha, hb]

end Json

/-! ## The order of the walk -/

def allKeys (left right : List String) : List String := left ++ right.filter (· ∉ left)

theorem map_fst_groups (left right : List (String × Json)) :
    (groups left right).map (·.1) = allKeys (left.map (·.1)) (right.map (·.1)) := by
  have new (key : String) : (Keyed.lookup key left).isNone = decide (key ∉ left.map (·.1)) := by
    rw [Bool.eq_iff_iff, Option.isNone_iff_eq_none, Keyed.lookup_eq_none_iff]
    simp
    grind
  simp [groups, allKeys, changesIn_eq, added, List.filter_map, Function.comp_def, new]

/-- The walk over two objects goes through all keys in order, and lists what it finds below each. -/
theorem changes_object {left right : List (String × Json)} (hl : Keyed.Increasing left)
    (hr : Keyed.Increasing right) :
    changes (.object left) (.object right) =
      (CaseId.sortKeys (allKeys (left.map (·.1)) (right.map (·.1)))).flatMap fun key =>
        (changesAt (Keyed.lookup key left) (Keyed.lookup key right)).map (·.under key) := by
  have sorted : CaseId.sortKeys (allKeys (left.map (·.1)) (right.map (·.1))) =
      ((groups left right).mergeSort fun a b => (CaseId.compareKeys a.1 b.1).isLE).map (·.1) := by
    rw [← map_fst_groups, CaseId.sortKeys, List.map_mergeSort]
    exact fun _ _ _ _ => rfl
  rw [changes, gather, ← groups, sorted, List.flatMap_map]
  refine List.flatMap_congr fun g hg => ?_
  rw [eq_changesAt_of_mem_groups hl hr ((List.mergeSort_perm _ _).mem_iff.mp hg)]

/-! ## What is reported -/

/-- The differences are reported of these places, one by one: of each place where the documents
differ, once, with what stands there on either side. -/
structure Reported (left right : Json) (differences : List Difference)
    (places : List (List String)) : Prop where
  shown : differences =
    places.map fun keys => ⟨slashed keys, left.follow? keys, right.follow? keys⟩
  mem_iff : ∀ keys, keys ∈ places ↔ left.DiffersAt right keys
  once : places.Nodup

/-- The places where the walk finds two documents to differ. -/
def places (left right : Json) : List (List String) := (changes left right).map (·.keys)

/-- The walk stops at once at values that are not both objects. -/
theorem places_of_not_objects {x y : Json} (h : ¬ (x.ObjectAt [] ∧ y.ObjectAt [])) :
    places x y = if x.same y then [] else [[]] := by
  rw [places, changes_of_not_objects h]
  split_ifs <;> rfl

/-- The places that the walk finds below a key. -/
def placesAt (a b : Option Json) : List (List String) := (changesAt a b).map (·.keys)

@[simp] theorem placesAt_some (x y : Json) : placesAt (some x) (some y) = places x y := rfl

@[simp] theorem placesAt_none : placesAt none none = [] := rfl

@[simp] theorem placesAt_left (x : Json) : placesAt (some x) none = [[]] := rfl

@[simp] theorem placesAt_right (y : Json) : placesAt none (some y) = [[]] := rfl

/-- The places of two objects are those below their keys, in the order in which keys are sorted. -/
theorem places_object {left right : List (String × Json)} (hl : Keyed.Increasing left)
    (hr : Keyed.Increasing right) :
    places (.object left) (.object right) =
      (CaseId.sortKeys (allKeys (left.map (·.1)) (right.map (·.1)))).flatMap fun key =>
        (placesAt (Keyed.lookup key left) (Keyed.lookup key right)).map (key :: ·) := by
  simp [places, placesAt, changes_object hl hr, List.map_flatMap, Function.comp_def, Change.under]

/-- The comparison reports the places of its walk. -/
theorem reported_between {left right : Json} (hl : left.Ordered) (hr : right.Ordered) :
    Reported left right (Diff.between left right).entries (places left right) where
  shown := by
    rw [Diff.between, places, List.map_map]
    refine List.map_congr_left fun c hc => ?_
    have shows := (mem_changes_iff hl hr).mp hc
    simp [Change.difference, c.path_eq_slashed, shows.baseline, shows.fresh]
  mem_iff keys := by
    rw [places, List.mem_map]
    constructor
    · rintro ⟨c, hc, rfl⟩
      exact ((mem_changes_iff hl hr).mp hc).differs
    · intro differs
      exact ⟨⟨keys, left.follow? keys, right.follow? keys⟩,
        (mem_changes_iff hl hr).mpr ⟨rfl, rfl, differs⟩, rfl⟩
  once := nodup_changes hl hr

def Verdict.differences : Verdict → List Difference
  | .agrees => []
  | .differs diff => diff.entries

namespace Policy

/-- Whether documents are judged is no matter of the policy. -/
theorem verify_eq_judge {p : Policy} {baselineOrigin freshOrigin : String} {baseline fresh : Json}
    {verdict : Verdict} (h : p.verify baselineOrigin baseline freshOrigin fresh = .ok verdict) :
    Json.Comparable baseline fresh ∧ ∀ q : Policy,
      q.verify baselineOrigin baseline freshOrigin fresh = .ok (q.judge baseline fresh) := by
  have comparable : Json.Comparable baseline fresh := by
    obtain ⟨comparable, -⟩ | ⟨-, path, cause, refused⟩ :=
      p.verify_cases baselineOrigin freshOrigin baseline fresh
    · exact comparable
    · simp [refused] at h
  refine ⟨comparable, fun q => ?_⟩
  obtain ⟨-, judged⟩ | ⟨not, -⟩ := q.verify_cases baselineOrigin freshOrigin baseline fresh
  · exact judged
  · exact absurd comparable not

/-- Normal forms can be compared if the documents can. -/
theorem comparable_normalize (p : Policy) {baseline fresh : Json}
    (h : Json.Comparable baseline fresh) :
    Json.Comparable (p.normalize baseline) (p.normalize fresh) where
  baseline_results := p.isResults_normalize h.baseline_results
  fresh_results := p.isResults_normalize h.fresh_results
  covered agent there := by simpa using h.covered agent (by simpa using there)

/-- A verdict reports the places where the normal forms differ, and none if it is a match. -/
theorem reported_judge (p : Policy) {baseline fresh : Json} (hb : baseline.Ordered)
    (hf : fresh.Ordered) :
    Reported (p.normalize baseline) (p.normalize fresh) (p.judge baseline fresh).differences
      (places (p.normalize baseline) (p.normalize fresh)) := by
  have hl := p.ordered_normalize hb
  have hr := p.ordered_normalize hf
  have reported := reported_between hl hr
  by_cases same : (p.normalize baseline).same (p.normalize fresh)
  · have nowhere : places (p.normalize baseline) (p.normalize fresh) = [] := by
      refine List.eq_nil_iff_forall_not_mem.mpr fun keys hkeys => ?_
      exact (Json.exists_differsAt_iff hl hr).mp ⟨keys, (reported.mem_iff keys).mp hkeys⟩ same
    refine ⟨?_, reported.mem_iff, reported.once⟩
    simp [judge, same, Verdict.differences, nowhere]
  · simpa [judge, same, Verdict.differences] using reported

/-- A verdict that reports nothing is a match. -/
theorem judge_eq_agrees_of_differences (p : Policy) {baseline fresh : Json} (hb : baseline.Ordered)
    (hf : fresh.Ordered) (h : (p.judge baseline fresh).differences = []) :
    p.judge baseline fresh = .agrees := by
  by_cases same : (p.normalize baseline).same (p.normalize fresh)
  · simp [judge, same]
  · have found := Diff.between_ne_nil (p.ordered_normalize hb) (p.ordered_normalize hf) same
    simp [judge, same, Verdict.differences, found] at h

end Policy
end ConformanceGate
