import ConformanceGate.Comparison.Diff
import ConformanceGate.Proofs.Json.Places
import Mathlib.Data.List.Nodup

/-!
# The walk over two documents

The walk lists exactly the places where two documents differ (`Json.DiffersAt`), each once and with
what stands there on either side. Putting the fresh sides into the first document, in the order of
the list, makes it the second one.

What the walk finds below two objects is a matter of one key at a time: `changesAt` says what it
lists for what the key leads to on either side.
-/

namespace ConformanceGate

/-- Two documents differ at a place: objects lead to it in both, it does not hold the same in both,
and it is not an object in both. A place that holds nothing is like no value. -/
structure Json.DiffersAt (left right : Json) (keys : List String) : Prop where
  way : ∀ front, front <+: keys → front ≠ keys → left.ObjectAt front ∧ right.ObjectAt front
  unlike : ¬ Alike (left.follow? keys) (right.follow? keys)
  notObjects : ¬ (left.ObjectAt keys ∧ right.ObjectAt keys)

namespace Json

theorem differsAt_iff {left right : Json} {keys : List String} :
    left.DiffersAt right keys ↔
      (∀ front, front <+: keys → front ≠ keys → left.ObjectAt front ∧ right.ObjectAt front) ∧
      ¬ Alike (left.follow? keys) (right.follow? keys) ∧
      ¬ (left.ObjectAt keys ∧ right.ObjectAt keys) :=
  ⟨fun h => ⟨h.way, h.unlike, h.notObjects⟩, fun h => ⟨h.1, h.2.1, h.2.2⟩⟩

/-- Documents differ at the root exactly if they are not the same and not both objects. -/
theorem differsAt_nil {left right : Json} :
    left.DiffersAt right [] ↔
      ¬ left.same right ∧ ¬ (left.ObjectAt [] ∧ right.ObjectAt []) := by
  constructor
  · intro h
    exact ⟨by simpa using h.unlike, h.notObjects⟩
  · rintro ⟨unlike, notObjects⟩
    refine ⟨fun front hfront hne => ?_, by simpa using unlike, notObjects⟩
    exact absurd (List.prefix_nil.mp hfront) hne

/-- Below the first key the documents must be objects. If both have the key, the values it leads to
differ at the rest of the place; if one of them has it, the place ends there. -/
def DiffersBelow (a b : Option Json) (keys : List String) : Prop :=
  match a, b with
  | some a, some b => a.DiffersAt b keys
  | none, none => False
  | _, _ => keys = []

theorem objectAt_cons {v : Json} {key : String} {keys : List String} :
    v.ObjectAt (key :: keys) ↔ ∃ found, v.get? key = some found ∧ found.ObjectAt keys := by
  cases h : v.get? key <;> simp [ObjectAt, h]

/-- A list with no proper prefix is empty. -/
theorem eq_nil_of_no_front {keys : List String}
    (h : ∀ front, front <+: keys → front = keys) : keys = [] :=
  (h [] List.nil_prefix).symm

/-- Objects differ below a key exactly if what it leads to in them differs there. -/
theorem differsAt_cons {left right : List (String × Json)} {key : String} {keys : List String} :
    (object left).DiffersAt (object right) (key :: keys) ↔
      DiffersBelow (Keyed.lookup key left) (Keyed.lookup key right) keys := by
  have way : (∀ front, front <+: key :: keys → front ≠ key :: keys →
        (object left).ObjectAt front ∧ (object right).ObjectAt front) ↔
      ∀ front, front <+: keys → front ≠ keys →
        (object left).ObjectAt (key :: front) ∧ (object right).ObjectAt (key :: front) := by
    constructor
    · intro h front hfront hne
      exact h (key :: front) (List.cons_prefix_cons.mpr ⟨rfl, hfront⟩) (by simpa using hne)
    · intro h front hfront hne
      rcases List.prefix_cons_iff.mp hfront with rfl | ⟨rest, rfl, hrest⟩
      · simp
      · exact h rest hrest (by simpa using hne)
  simp only [objectAt_cons, get?_object] at way
  rw [differsAt_iff, way]
  cases ha : Keyed.lookup key left with
  | none =>
    cases hb : Keyed.lookup key right with
    | none => simp [DiffersBelow, ha, hb]
    | some b =>
      constructor
      · intro h
        exact eq_nil_of_no_front fun front hfront => by simpa using h.1 front hfront
      · rintro rfl
        simp [objectAt_cons, ha, hb]
  | some a =>
    cases hb : Keyed.lookup key right with
    | none =>
      constructor
      · intro h
        exact eq_nil_of_no_front fun front hfront => by simpa using h.1 front hfront
      · rintro rfl
        simp [objectAt_cons, ha, hb]
    | some b => simp [DiffersBelow, differsAt_iff, objectAt_cons, ha, hb]

/-- What holds of two ordered documents that are not both objects, and of two objects if it holds
of what every key leads to in both, holds of any two ordered documents. -/
theorem pair_induction {P : Json → Json → Prop}
    (other : ∀ left right : Json, ¬ (left.ObjectAt [] ∧ right.ObjectAt []) → P left right)
    (objects : ∀ left right, Keyed.Increasing left → Keyed.Increasing right →
      (∀ key a b, Keyed.lookup key left = some a → Keyed.lookup key right = some b → P a b) →
      P (object left) (object right))
    {left right : Json} (hl : left.Ordered) (hr : right.Ordered) : P left right := by
  induction left using members_induction generalizing right with
  | other left hleft =>
    refine other left right fun h => ?_
    obtain ⟨members, rfl⟩ := objectAt_nil.mp h.1
    simp at hleft
  | object left ih =>
    by_cases hobject : right.ObjectAt []
    · obtain ⟨right, rfl⟩ := objectAt_nil.mp hobject
      refine objects left right hl.increasing hr.increasing fun key a b ha hb => ?_
      exact ih key a (Keyed.mem_of_lookup ha) (hl.get? ha) (hr.get? hb)
    · exact other _ right fun h => hobject h.2

end Json

/-! ## One key at a time -/

def changesAt : Option Json → Option Json → List Change
  | some a, some b => changes a b
  | none, none => []
  | a, b => [⟨[], a, b⟩]

/-- What the walk finds below two objects, by key. -/
def groups (left right : List (String × Json)) : List (String × List Change) :=
  changesIn left right ++ added left right

/-- Every key of the baseline has the changes between what it leads to on both sides. -/
theorem changesIn_eq (left right : List (String × Json)) :
    changesIn left right =
      left.map fun m => (m.1, changesAt (some m.2) (Keyed.lookup m.1 right)) := by
  induction left with
  | nil => simp [changesIn]
  | cons m left ih =>
    obtain ⟨key, value⟩ := m
    cases h : Keyed.lookup key right <;> simp [changesIn, ih, changesAt, h]

/-- A key that only the fresh side has is added with all that it leads to. -/
theorem lookup_added (left right : List (String × Json)) (key : String) :
    Keyed.lookup key (added left right) =
      if (Keyed.lookup key left).isNone then
        (Keyed.lookup key right).map fun b => changesAt none (some b)
      else none := by
  have kept := Keyed.lookup_filter (fun k => (Keyed.lookup k left).isNone) key right
  have found := Keyed.lookup_map (fun (_ : String) b => changesAt none (some b)) key
    (right.filter fun m => (Keyed.lookup m.1 left).isNone)
  simp only [changesAt] at found
  rw [added, found, kept]
  split_ifs <;> rfl

/-- The group of a key holds the changes between what the key leads to. -/
theorem lookup_groups (left right : List (String × Json)) (key : String) :
    (Keyed.lookup key (groups left right)).getD [] =
      changesAt (Keyed.lookup key left) (Keyed.lookup key right) := by
  have found := Keyed.lookup_map (fun k a => changesAt (some a) (Keyed.lookup k right)) key left
  rw [groups, Keyed.lookup_append, changesIn_eq, found, lookup_added]
  cases Keyed.lookup key left <;> cases Keyed.lookup key right <;> simp [changesAt]

/-- Every key has one group. -/
theorem nodup_groups {left right : List (String × Json)} (hl : Keyed.Increasing left)
    (hr : Keyed.Increasing right) : ((groups left right).map (·.1)).Nodup := by
  have lefts : (changesIn left right).map (·.1) = left.map (·.1) := by
    simp [changesIn_eq, Function.comp_def]
  have rights : (added left right).map (·.1) =
      (right.filter fun m => (Keyed.lookup m.1 left).isNone).map (·.1) := by
    simp [added, Function.comp_def]
  rw [groups, List.map_append, lefts, rights]
  refine hl.nodup.append (hr.filter _).nodup fun key hleft hright => ?_
  obtain ⟨m, hm, rfl⟩ := List.mem_map.mp hleft
  obtain ⟨q, hq, hqm⟩ := List.mem_map.mp hright
  have absent : Keyed.lookup m.1 left = none := by
    simpa [hqm] using (List.mem_filter.mp hq).2
  exact Keyed.lookup_eq_none_iff.mp absent m hm rfl

theorem eq_changesAt_of_mem_groups {left right : List (String × Json)}
    (hl : Keyed.Increasing left) (hr : Keyed.Increasing right) {key : String}
    {cs : List Change} (h : (key, cs) ∈ groups left right) :
    cs = changesAt (Keyed.lookup key left) (Keyed.lookup key right) := by
  rw [← lookup_groups, (Keyed.lookup_eq_some_iff (nodup_groups hl hr)).mpr h]
  rfl

/-- Gathering loses and repeats nothing. -/
theorem gather_perm (gs : List (String × List Change)) :
    (gather gs).Perm (gs.flatMap fun g => g.2.map (·.under g.1)) :=
  (List.mergeSort_perm _ _).flatMap_right _

/-- A change below two objects is a change of one key, one level further out. -/
theorem mem_changes_object {left right : List (String × Json)} (hl : Keyed.Increasing left)
    (hr : Keyed.Increasing right) {c : Change} :
    c ∈ changes (.object left) (.object right) ↔
      ∃ key d, c = d.under key ∧
        d ∈ changesAt (Keyed.lookup key left) (Keyed.lookup key right) := by
  have found (key : String) (cs : List Change) :
      Keyed.lookup key (groups left right) = some cs ↔ (key, cs) ∈ groups left right :=
    Keyed.lookup_eq_some_iff (nodup_groups hl hr)
  rw [changes, (gather_perm _).mem_iff, List.mem_flatMap]
  constructor
  · rintro ⟨⟨key, cs⟩, hg, hc⟩
    obtain ⟨d, hd, rfl⟩ := List.mem_map.mp hc
    exact ⟨key, d, rfl, eq_changesAt_of_mem_groups hl hr hg ▸ hd⟩
  · rintro ⟨key, d, rfl, hd⟩
    rw [← lookup_groups] at hd
    cases hg : Keyed.lookup key (groups left right) with
    | none => simp [hg] at hd
    | some cs =>
      refine ⟨(key, cs), (found key cs).mp hg, List.mem_map_of_mem ?_⟩
      simpa [hg] using hd

/-- Documents of which one is no object are one change, or none. -/
theorem changes_of_not_objects {left right : Json}
    (h : ¬ (left.ObjectAt [] ∧ right.ObjectAt [])) :
    changes left right = if left.same right then [] else [⟨[], some left, some right⟩] := by
  cases left <;> cases right <;> simp_all [changes, Json.same]

/-- A change is at a place where the documents differ, and shows what stands there. -/
structure Change.Shows (left right : Json) (c : Change) : Prop where
  baseline : c.baseline = left.follow? c.keys
  fresh : c.fresh = right.follow? c.keys
  differs : left.DiffersAt right c.keys

theorem Change.shows_iff {left right : Json} {c : Change} :
    c.Shows left right ↔
      c.baseline = left.follow? c.keys ∧ c.fresh = right.follow? c.keys ∧
        left.DiffersAt right c.keys :=
  ⟨fun h => ⟨h.baseline, h.fresh, h.differs⟩, fun h => ⟨h.1, h.2.1, h.2.2⟩⟩

/-- Without objects on both sides, the changes are those that show a difference. -/
theorem mem_changes_of_not_objects {left right : Json}
    (h : ¬ (left.ObjectAt [] ∧ right.ObjectAt [])) {c : Change} :
    c ∈ changes left right ↔ c.Shows left right := by
  obtain ⟨keys, baseline, fresh⟩ := c
  rw [changes_of_not_objects h, Change.shows_iff]
  cases keys with
  | nil =>
    rw [Json.differsAt_nil]
    by_cases same : left.same right <;> simp [-Json.objectAt_nil, h, same]
  | cons key keys =>
    have not_below : ¬ left.DiffersAt right (key :: keys) := fun differs =>
      h (differs.way [] List.nil_prefix (by simp))
    by_cases same : left.same right <;> simp [not_below, same]

/-- If the walk is right about the values of a key, it is right about the key. -/
theorem mem_changesAt_iff {a b : Option Json} {d : Change}
    (both : ∀ x y, a = some x → b = some y → (d ∈ changes x y ↔ d.Shows x y)) :
    d ∈ changesAt a b ↔
      d.baseline = a.bind (·.follow? d.keys) ∧ d.fresh = b.bind (·.follow? d.keys) ∧
        Json.DiffersBelow a b d.keys := by
  obtain ⟨keys, baseline, fresh⟩ := d
  cases a with
  | none =>
    cases b with
    | none => simp [changesAt, Json.DiffersBelow]
    | some y =>
      simp only [changesAt, Json.DiffersBelow, List.mem_singleton, Change.mk.injEq]
      constructor
      · rintro ⟨rfl, rfl, rfl⟩
        simp
      · rintro ⟨rfl, rfl, rfl⟩
        simp
  | some x =>
    cases b with
    | none =>
      simp only [changesAt, Json.DiffersBelow, List.mem_singleton, Change.mk.injEq]
      constructor
      · rintro ⟨rfl, rfl, rfl⟩
        simp
      · rintro ⟨rfl, rfl, rfl⟩
        simp
    | some y => simpa [changesAt, Json.DiffersBelow, Change.shows_iff] using both x y rfl rfl

/-- The walk lists the places where the documents differ, with what stands there. -/
theorem mem_changes_iff {left right : Json} (hl : left.Ordered) (hr : right.Ordered)
    {c : Change} : c ∈ changes left right ↔ c.Shows left right := by
  refine Json.pair_induction (P := fun left right => ∀ c, c ∈ changes left right ↔
    c.Shows left right) (fun left right h c => mem_changes_of_not_objects h) ?_ hl hr c
  rintro left right hl hr ih ⟨keys, baseline, fresh⟩
  rw [mem_changes_object hl hr, Change.shows_iff]
  cases keys with
  | nil =>
    constructor
    · rintro ⟨key, d, h, -⟩
      simp [Change.under] at h
    · rintro ⟨-, -, differs⟩
      simpa using differs.notObjects
  | cons key keys =>
    -- A place below two objects is a place below one key, where the walk is right by induction.
    have below := mem_changesAt_iff (d := ⟨keys, baseline, fresh⟩)
      fun x y hx hy => ih key x y hx hy _
    simp only [Json.differsAt_cons, Json.follow?_cons, Json.get?_object]
    refine Iff.trans ?_ below
    constructor
    · rintro ⟨other, d, h, hd⟩
      simp only [Change.under, Change.mk.injEq, List.cons.injEq] at h
      obtain ⟨⟨rfl, rfl⟩, rfl, rfl⟩ := h
      exact hd
    · exact fun hd => ⟨key, _, rfl, hd⟩

/-- The walk lists no place twice. -/
theorem nodup_changes {left right : Json} (hl : left.Ordered) (hr : right.Ordered) :
    ((changes left right).map (·.keys)).Nodup := by
  refine Json.pair_induction (P := fun left right => ((changes left right).map (·.keys)).Nodup)
    (fun left right h => ?_) (fun left right hl hr ih => ?_) hl hr
  · rw [changes_of_not_objects h]
    split_ifs <;> simp
  · have places : ((groups left right).flatMap fun g => g.2.map (·.under g.1)).map (·.keys) =
        (groups left right).flatMap fun g => (g.2.map (·.keys)).map (g.1 :: ·) := by
      simp [List.map_flatMap, Function.comp_def, Change.under]
    rw [changes, ((gather_perm _).map _).nodup_iff, ← groups, places, List.nodup_flatMap]
    -- Within a group the first key is the same, so the rest decides; between groups it is not.
    constructor
    · rintro ⟨key, cs⟩ hg
      refine List.Nodup.map (fun _ _ h => (List.cons.inj h).2) ?_
      rw [eq_changesAt_of_mem_groups hl hr hg]
      cases ha : Keyed.lookup key left <;> cases hb : Keyed.lookup key right <;> simp [changesAt]
      exact ih key _ _ ha hb
    · refine (List.pairwise_map.mp (nodup_groups hl hr)).imp fun {g h} hne keys hg hh => ?_
      obtain ⟨_, -, rfl⟩ := List.mem_map.mp hg
      obtain ⟨_, -, heq⟩ := List.mem_map.mp hh
      exact hne (List.cons.inj heq).1.symm

/-! ## Putting the changes in -/

/-- The document after the fresh side of every change was put in its place. -/
def patch (cs : List Change) (document : Option Json) : Option Json :=
  cs.foldl (fun document c => Json.put c.keys c.fresh document) document

@[simp] theorem patch_nil (document : Option Json) : patch [] document = document := rfl

@[simp] theorem patch_cons (c : Change) (cs : List Change) (document : Option Json) :
    patch (c :: cs) document = patch cs (Json.put c.keys c.fresh document) := rfl

theorem patch_append (front back : List Change) (document : Option Json) :
    patch (front ++ back) document = patch back (patch front document) := List.foldl_append

/-- Changes below one key change what this key leads to. -/
theorem patch_under (key : String) (cs : List Change) {members : List (String × Json)}
    (h : Keyed.Increasing members) :
    ∃ after, patch (cs.map (·.under key)) (some (.object members)) = some (.object after) ∧
      Keyed.Increasing after ∧ ∀ other, Keyed.lookup other after =
        if other = key then patch cs (Keyed.lookup key members)
        else Keyed.lookup other members := by
  induction cs generalizing members with
  | nil =>
    refine ⟨members, rfl, h, fun other => ?_⟩
    split_ifs with heq <;> simp [heq]
  | cons c cs ih =>
    obtain ⟨after, hpatch, hafter, found⟩ :=
      ih (h.assign key (Json.put c.keys c.fresh (Keyed.lookup key members)))
    -- The first change leaves an ordered object behind, into which the others are put.
    refine ⟨after, by simpa [Change.under] using hpatch, hafter, fun other => ?_⟩
    rw [found]
    by_cases heq : other = key <;> simp [heq]

/-- Groups of changes change what their keys lead to, one key after the other. -/
theorem patch_groups {gs : List (String × List Change)} (distinct : (gs.map (·.1)).Nodup)
    {members : List (String × Json)} (h : Keyed.Increasing members) :
    ∃ after, patch (gs.flatMap fun g => g.2.map (·.under g.1)) (some (.object members)) =
        some (.object after) ∧
      Keyed.Increasing after ∧ ∀ key, Keyed.lookup key after =
        patch ((Keyed.lookup key gs).getD []) (Keyed.lookup key members) := by
  induction gs generalizing members with
  | nil => exact ⟨members, rfl, h, by simp⟩
  | cons g gs ih =>
    obtain ⟨name, cs⟩ := g
    obtain ⟨hname, distinct⟩ := List.nodup_cons.mp distinct
    obtain ⟨middle, hmiddle, increasing, first⟩ := patch_under name cs h
    obtain ⟨after, hafter, increasing, later⟩ := ih distinct increasing
    refine ⟨after, by simpa [patch_append, hmiddle] using hafter, increasing, fun key => ?_⟩
    rw [later, first]
    by_cases heq : key = name
    · subst heq
      have absent : Keyed.lookup key gs = none := Keyed.lookup_eq_none_iff.mpr fun p hp e =>
        hname (e ▸ List.mem_map_of_mem (f := (·.1)) hp)
      simp [absent]
    · simp [heq, Keyed.lookup_cons_ne (Ne.symm heq)]

/-- Putting all changes into the first document makes it the second one. -/
theorem patch_changes {left right : Json} (hl : left.Ordered) (hr : right.Ordered) :
    Json.Alike (patch (changes left right) (some left)) (some right) := by
  refine Json.pair_induction
    (P := fun left right => Json.Alike (patch (changes left right) (some left)) (some right))
    (fun left right h => ?_) (fun left right hl hr ih => ?_) hl hr
  · rw [changes_of_not_objects h]
    split_ifs with same
    · simpa using same
    · simp
  · have distinct := ((List.mergeSort_perm (groups left right) fun a b =>
      (CaseId.compareKeys a.1 b.1).isLE).map (·.1)).nodup_iff.mpr (nodup_groups hl hr)
    obtain ⟨after, hafter, increasing, found⟩ := patch_groups distinct hl
    rw [changes, gather, ← groups, hafter, Json.alike_some, Json.same_object_iff increasing hr]
    intro key
    rw [found, Keyed.lookup_perm (List.mergeSort_perm _ _) distinct, lookup_groups]
    cases ha : Keyed.lookup key left <;> cases hb : Keyed.lookup key right
    all_goals simp [changesAt]
    exact ih key _ _ ha hb

end ConformanceGate
