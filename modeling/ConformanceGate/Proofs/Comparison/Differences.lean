import ConformanceGate.Proofs.Comparison.Changes
import ConformanceGate.Proofs.Comparison.Verdict
import Mathlib

/-!
# What a mismatch reports

The differences reported of two documents are exactly the places where their normal forms differ.
If no key has a slash in it, the path of a difference tells its keys, so no two differences have
one path, and the reported fresh sides make the normal form of the baseline that of the fresh
document.
-/

namespace ConformanceGate

/-! ## Paths -/

def slashed (keys : List String) : String := "/" ++ "/".intercalate keys

def pathKeys (path : String) : List String :=
  (path.toList.tail.splitOn '/').map String.ofList

theorem toList_slashed (keys : List String) :
    (slashed keys).toList = '/' :: ['/'].intercalate (keys.map String.toList) := by
  simp [slashed]

/-- The path of a change is made of its keys, each with a slash in front. -/
theorem Change.path_eq_slashed (c : Change) : c.path = slashed c.keys := by
  obtain ⟨keys, baseline, fresh⟩ := c
  refine String.toList_inj.mp ?_
  rw [toList_slashed]
  cases keys with
  | nil => simp [Change.path]
  | cons key keys =>
    simp only [Change.path, List.isEmpty_cons, Bool.false_eq_true, if_false, String.toList_ofList]
    induction keys generalizing key with
    | nil => simp
    | cons next keys ih => simpa using ih next

/-- Keys without slashes can be read off their path. -/
theorem pathKeys_slashed {keys : List String} (hne : keys ≠ [])
    (free : ∀ key ∈ keys, '/' ∉ key.toList) : pathKeys (slashed keys) = keys := by
  have parts : (['/'].intercalate (keys.map String.toList)).splitOn '/' =
      keys.map String.toList := by
    refine List.splitOn_intercalate '/' (fun l hl => ?_) (by simpa using hne)
    obtain ⟨key, hkey, rfl⟩ := List.mem_map.mp hl
    exact free key hkey
  simp [pathKeys, toList_slashed, parts, Function.comp_def]

/-! ## Normal forms -/

/-- No key on the way to any place has a slash in it. -/
def Json.SlashFree (v : Json) : Prop :=
  ∀ keys, (v.follow? keys).isSome → ∀ key ∈ keys, '/' ∉ key.toList

theorem Json.slashFree_of_members? {v : Json} (h : v.members? = none) : v.SlashFree := by
  intro keys hkeys key hkey
  cases keys with
  | nil => simp at hkey
  | cons first keys => simp [get?_eq_none_of_members? h] at hkeys

/-- An object is slash-free if its keys are without slashes and its values slash-free. -/
theorem Json.slashFree_object {members : List (String × Json)}
    (h : ∀ m ∈ members, '/' ∉ m.1.toList ∧ m.2.SlashFree) : (object members).SlashFree := by
  intro keys hkeys key hkey
  cases keys with
  | nil => simp at hkey
  | cons first keys =>
    cases hfirst : Keyed.lookup first members with
    | none => simp [hfirst] at hkeys
    | some found =>
      obtain ⟨head, rest⟩ := h _ (Keyed.mem_of_lookup hfirst)
      rcases List.mem_cons.mp hkey with rfl | hkey
      · exact head
      · exact rest keys (by simpa [hfirst] using hkeys) key hkey

namespace Policy

theorem ordered_object_map {members : List (String × Json)} (h : Keyed.Increasing members)
    (f : String → Json → Json) (hf : ∀ m ∈ members, (f m.1 m.2).Ordered) :
    (Json.object (members.map fun m => (m.1, f m.1 m.2))).Ordered := by
  refine Json.ordered_object_iff.mpr ⟨h.map f, fun key value hm => ?_⟩
  obtain ⟨m, hmember, heq⟩ := List.mem_map.mp hm
  cases heq
  exact hf m hmember

theorem ordered_onMembers_map {f : Json → Json} {v : Json} (h : v.Ordered)
    (hf : ∀ value : Json, value.Ordered → (f value).Ordered) :
    (onMembers (List.map fun m => (m.1, f m.2)) v).Ordered := by
  cases v with
  | object members =>
    exact ordered_object_map h.increasing (fun _ => f) fun m hm =>
      hf m.2 ((Json.ordered_object_iff.mp h).2 m.1 m.2 hm)
  | _ => exact h

theorem ordered_normalCase (p : Policy) {v : Json} (h : v.Ordered) :
    (p.normalCase v).Ordered := by
  cases v with
  | object fields =>
    refine ordered_object_map (h.increasing.filter _) p.normalField fun m hm => ?_
    simp only [normalField]
    split_ifs
    · simp [Json.Ordered]
    · exact (Json.ordered_object_iff.mp h).2 m.1 m.2 (List.mem_filter.mp hm).1
  | _ => exact h

/-- The normal form of an ordered document is ordered. -/
theorem ordered_normalize (p : Policy) {v : Json} (h : v.Ordered) : (p.normalize v).Ordered :=
  ordered_onMembers_map h fun _ h => ordered_onMembers_map h fun _ h => p.ordered_normalCase h

/-- What the function yields has no places that its argument lacks. -/
def Narrows (f : Json → Json) : Prop :=
  ∀ v keys, ((f v).follow? keys).isSome → (v.follow? keys).isSome

theorem narrows_onMembers_map {f : Json → Json} (hf : Narrows f) :
    Narrows (onMembers (List.map fun m => (m.1, f m.2))) := by
  intro v keys h
  cases keys with
  | nil => simp
  | cons key keys =>
    rw [Json.follow?_cons, get?_onMembers_map (fun _ => f)] at h
    cases hv : v.get? key with
    | none => simp [hv] at h
    | some found => simpa [hv] using hf found keys (by simpa [hv] using h)

theorem narrows_counted (p : Policy) (field : String) : Narrows (p.counted field) := by
  intro v keys h
  unfold counted at h
  split_ifs at h
  · cases keys with
    | nil => simp
    | cons key keys => simp [Json.get?, Json.members?] at h
  · exact h

/-- The normal form of a case has no keys that the case did not have. -/
theorem narrows_normalCase (p : Policy) : Narrows p.normalCase := by
  intro v keys h
  cases keys with
  | nil => simp
  | cons field keys =>
    rw [Json.follow?_cons, get?_normalCase] at h
    cases hv : v.get? field with
    | none => simp [hv] at h
    | some found =>
      split_ifs at h
      · simp at h
      · simpa [hv] using p.narrows_counted field found keys (by simpa [hv] using h)

/-- The normal form has no places that the document lacks. -/
theorem narrows_normalize (p : Policy) : Narrows p.normalize :=
  narrows_onMembers_map (narrows_onMembers_map p.narrows_normalCase)

/-- The normal form has no slash in a key if the document has none. -/
theorem slashFree_normalize (p : Policy) {v : Json} (h : v.SlashFree) :
    (p.normalize v).SlashFree :=
  fun keys hkeys => h keys (p.narrows_normalize v keys hkeys)

end Policy

/-! ## The reported differences -/

namespace Diff

variable {left right : Json}

/-- The differences reported of two documents are the places where they differ, with what stands
there. -/
theorem mem_between_iff (hl : left.Ordered) (hr : right.Ordered) {d : Difference} :
    d ∈ (between left right).entries ↔
      ∃ keys, d = ⟨slashed keys, left.follow? keys, right.follow? keys⟩ ∧
        left.DiffersAt right keys := by
  simp only [between, List.mem_map, mem_changes_iff hl hr]
  constructor
  · rintro ⟨c, ⟨baseline, fresh, differs⟩, rfl⟩
    exact ⟨c.keys, by rw [Change.difference, c.path_eq_slashed, baseline, fresh], differs⟩
  · rintro ⟨keys, rfl, differs⟩
    exact ⟨⟨keys, left.follow? keys, right.follow? keys⟩, ⟨rfl, rfl, differs⟩,
      by rw [Change.difference, Change.path_eq_slashed]⟩

/-- Without slashes in the keys of two objects, the path of a change tells its keys. -/
theorem pathKeys_difference (hl : left.Ordered) (hr : right.Ordered)
    (objects : left.ObjectAt [] ∧ right.ObjectAt []) (sl : left.SlashFree) (sr : right.SlashFree)
    {c : Change} (hc : c ∈ changes left right) : pathKeys c.difference.path = c.keys := by
  have differs := ((mem_changes_iff hl hr).mp hc).differs
  rw [Change.difference, c.path_eq_slashed]
  refine pathKeys_slashed (fun hnil => ?_) fun key hkey => ?_
  · exact differs.notObjects (hnil ▸ objects)
  · have unlike := differs.unlike
    cases hleft : left.follow? c.keys with
    | some v => exact sl c.keys (by simp [hleft]) key hkey
    | none =>
      cases hright : right.follow? c.keys with
      | some v => exact sr c.keys (by simp [hright]) key hkey
      | none => simp [hleft, hright] at unlike

/-- No two differences have one path. -/
theorem nodup_paths (hl : left.Ordered) (hr : right.Ordered)
    (objects : left.ObjectAt [] ∧ right.ObjectAt []) (sl : left.SlashFree)
    (sr : right.SlashFree) : ((between left right).entries.map (·.path)).Nodup := by
  have places : ((between left right).entries.map (·.path)).map pathKeys =
      (changes left right).map (·.keys) := by
    rw [between, List.map_map, List.map_map]
    exact List.map_congr_left fun c hc => pathKeys_difference hl hr objects sl sr hc
  exact List.Nodup.of_map pathKeys (places ▸ nodup_changes hl hr)

/-- Documents that are not the same differ somewhere. -/
theorem between_ne_nil (hl : left.Ordered) (hr : right.Ordered) (h : ¬ left.same right) :
    (between left right).entries ≠ [] := by
  intro hnil
  have patched := patch_changes hl hr
  rw [List.map_eq_nil_iff.mp hnil, patch_nil, Json.alike_some] at patched
  exact h patched

/-- Putting the fresh sides where the paths say makes the first document the second one. -/
theorem foldl_put_between (hl : left.Ordered) (hr : right.Ordered)
    (objects : left.ObjectAt [] ∧ right.ObjectAt []) (sl : left.SlashFree)
    (sr : right.SlashFree) :
    Json.Alike ((between left right).entries.foldl
      (fun document d => Json.put (pathKeys d.path) d.fresh document) (some left))
      (some right) := by
  have patched := patch_changes hl hr
  rw [between, List.foldl_map]
  rw [patch] at patched
  convert patched using 1
  refine List.foldl_ext _ _ _ fun document c hc => ?_
  rw [pathKeys_difference hl hr objects sl sr hc]
  rfl

end Diff

namespace Policy

/-- A mismatch is reported of two results whose normal forms are not the same. -/
theorem verify_eq_differs {p : Policy} {baselineOrigin freshOrigin : String}
    {baseline fresh : Json} {diff : Diff}
    (h : p.verify baselineOrigin baseline freshOrigin fresh = .ok (.differs diff)) :
    Json.Comparable baseline fresh ∧ ¬ (p.normalize baseline).same (p.normalize fresh) ∧
      diff = .between (p.normalize baseline) (p.normalize fresh) := by
  obtain ⟨comparable, judged⟩ | ⟨-, path, cause, refused⟩ :=
    p.verify_cases baselineOrigin freshOrigin baseline fresh
  · rw [judged] at h
    by_cases same : (p.normalize baseline).same (p.normalize fresh)
    · simp [judge, same] at h
    · exact ⟨comparable, same, by simpa [judge, same, eq_comm] using h⟩
  · simp [refused] at h

/-- A reported mismatch lists exactly the places where the normal forms differ, each once and with
what stands there on either side. It is never empty, and putting the fresh sides into the normal
form of the baseline yields that of the fresh document. -/
theorem verify_differences (p : Policy) (baselineOrigin freshOrigin : String)
    {baseline fresh : Json} (hb : baseline.Ordered) (hf : fresh.Ordered)
    (sb : baseline.SlashFree) (sf : fresh.SlashFree) {diff : Diff}
    (h : p.verify baselineOrigin baseline freshOrigin fresh = .ok (.differs diff)) :
    let left := p.normalize baseline
    let right := p.normalize fresh
    (∀ d, d ∈ diff.entries ↔ ∃ keys, d = ⟨slashed keys, left.follow? keys, right.follow? keys⟩ ∧
      left.DiffersAt right keys) ∧
    (diff.entries.map (·.path)).Nodup ∧ diff.entries ≠ [] ∧
    Json.Alike (diff.entries.foldl
      (fun document d => Json.put (pathKeys d.path) d.fresh document) (some left))
      (some right) := by
  intro left right
  obtain ⟨comparable, unlike, rfl⟩ := verify_eq_differs h
  have hl : left.Ordered := p.ordered_normalize hb
  have hr : right.Ordered := p.ordered_normalize hf
  have sl : left.SlashFree := p.slashFree_normalize sb
  have sr : right.SlashFree := p.slashFree_normalize sf
  have objects : left.ObjectAt [] ∧ right.ObjectAt [] := by
    obtain ⟨agents, rfl, -⟩ := comparable.baseline_results
    obtain ⟨others, rfl, -⟩ := comparable.fresh_results
    simp [left, right, normalize_eq, onMembers]
  exact ⟨fun d => Diff.mem_between_iff hl hr, Diff.nodup_paths hl hr objects sl sr,
    Diff.between_ne_nil hl hr unlike, Diff.foldl_put_between hl hr objects sl sr⟩

/-- What became of the one record of `strictSample`: its status is another, and a case is new. -/
def changedSample : Json :=
  .object [("duration", .object [("1.1.1", .object [("behavior", .string "FAILED")]),
    ("1.1.2", .object [])])]

/-- One status changed and one case was added: both places are reported, in this order. -/
theorem verify_differences_changed :
    ∃ diff, strict.verify "" strictSample "" changedSample = .ok (.differs diff) ∧
      strictSample.Ordered ∧ changedSample.Ordered ∧
      strictSample.SlashFree ∧ changedSample.SlashFree ∧
      (∀ d, d ∈ diff.entries ↔ ∃ keys,
        d = ⟨slashed keys, (strict.normalize strictSample).follow? keys,
          (strict.normalize changedSample).follow? keys⟩ ∧
        (strict.normalize strictSample).DiffersAt (strict.normalize changedSample) keys) ∧
      diff.entries.map (·.path) = ["/duration/1.1.1/behavior", "/duration/1.1.2"] := by
  have differs : strict.verify "" strictSample "" changedSample =
      .ok (.differs ⟨[⟨"/duration/1.1.1/behavior", some (.string "OK"), some (.string "FAILED")⟩,
        ⟨"/duration/1.1.2", none, some (.object [])⟩]⟩) := by cbv
  have hb := strictSample_ordered
  have hf : changedSample.Ordered := by
    have cases : "1.1.1" < "1.1.2" := by decide
    simp only [changedSample, Json.Ordered, Json.OrderedMembers, Keyed.increasing_cons,
      Keyed.increasing_nil, List.forall_mem_singleton, List.not_mem_nil, false_implies,
      implies_true, cases, and_self]
  have status (s : String) : (Json.string s).SlashFree := Json.slashFree_of_members? rfl
  have number (n : Number) : (Json.number n).SlashFree := Json.slashFree_of_members? rfl
  have sb : strictSample.SlashFree := by
    have record : (Json.object [("behavior", .string "OK"), ("duration", .int 4)]).SlashFree :=
      Json.slashFree_object (by simp [status, number, Json.int])
    exact Json.slashFree_object (by simp [Json.slashFree_object, record])
  have sf : changedSample.SlashFree := by
    have record : (Json.object [("behavior", .string "FAILED")]).SlashFree :=
      Json.slashFree_object (by simp [status])
    exact Json.slashFree_object (by simp [Json.slashFree_object, record])
  have reported := verify_differences strict "" "" hb hf sb sf differs
  exact ⟨_, differs, hb, hf, sb, sf, reported.1, rfl⟩

end Policy
end ConformanceGate
