import ConformanceGate.Keyed
import Mathlib.Data.List.Forall2
import Mathlib.Data.List.Perm.Subperm

/-!
# Looking up keys

Pairs in key order are determined by what each key leads to: two lists of such pairs agree pair by
pair exactly if they agree at every key (`forall₂_iff_lookup`). Inserting, erasing and changing
values are described by what they do to `lookup`, and all of them keep the order.
-/

namespace ConformanceGate.Keyed

variable {κ α β : Type}

/-! ## Order -/

section Order

variable [LT κ]

@[simp] theorem increasing_nil : Increasing ([] : List (κ × α)) := .nil

theorem increasing_cons {p : κ × α} {rest : List (κ × α)} :
    Increasing (p :: rest) ↔ (∀ q ∈ rest, p.1 < q.1) ∧ Increasing rest := List.pairwise_cons

theorem below_of_below_head [@Trans κ κ κ (· < ·) (· < ·) (· < ·)] {key k : κ} {a : α}
    {rest : List (κ × α)} (h : key < k) (first : ∀ p ∈ rest, k < p.1) :
    ∀ p ∈ (k, a) :: rest, key < p.1 := by
  intro p hp
  rcases List.mem_cons.mp hp with rfl | hp
  · exact h
  · exact Std.lt_trans h (first p hp)

theorem Increasing.map {pairs : List (κ × α)} (h : Increasing pairs) (f : κ → α → β) :
    Increasing (pairs.map fun p => (p.1, f p.1 p.2)) := List.pairwise_map.mpr h

theorem Increasing.filter {pairs : List (κ × α)} (h : Increasing pairs) (keep : κ × α → Bool) :
    Increasing (pairs.filter keep) := h.sublist List.filter_sublist

theorem Increasing.nodup [@Std.Irrefl κ (· < ·)] {pairs : List (κ × α)} (h : Increasing pairs) :
    (pairs.map (·.1)).Nodup := by
  refine List.pairwise_map.mpr (h.imp fun {a b} hlt heq => ?_)
  rw [heq] at hlt
  exact Std.lt_irrefl hlt

/-- What is below the key of a pair stands in front of it. -/
theorem Increasing.mem_front [@Std.Irrefl κ (· < ·)] [@Trans κ κ κ (· < ·) (· < ·) (· < ·)]
    {front back : List (κ × α)} {p q : κ × α} (h : Increasing (front ++ p :: back))
    (hq : q ∈ front ++ p :: back) (below : q.1 < p.1) : q ∈ front := by
  obtain ⟨-, later, -⟩ := List.pairwise_append.mp h
  rcases List.mem_append.mp hq with hq | hq
  · exact hq
  rcases List.mem_cons.mp hq with rfl | hq
  · exact absurd below Std.lt_irrefl
  · exact absurd (Std.lt_trans below ((increasing_cons.mp later).1 q hq)) Std.lt_irrefl

end Order

section Lookup

variable [DecidableEq κ]

/-! ## Lookups -/

@[simp] theorem lookup_nil (key : κ) : lookup key ([] : List (κ × α)) = none := rfl

@[simp] theorem lookup_cons_self (key : κ) (value : α) (rest : List (κ × α)) :
    lookup key ((key, value) :: rest) = some value := by simp [lookup]

theorem lookup_cons_ne {key other : κ} (h : other ≠ key) (value : α) (rest : List (κ × α)) :
    lookup key ((other, value) :: rest) = lookup key rest := by simp [lookup, h]

theorem mem_of_lookup {key : κ} {value : α} {pairs : List (κ × α)}
    (h : lookup key pairs = some value) : (key, value) ∈ pairs := by
  induction pairs with
  | nil => simp at h
  | cons p rest ih =>
    obtain ⟨k, v⟩ := p
    by_cases hk : k = key
    · subst hk
      simp_all
    · rw [lookup_cons_ne hk] at h
      exact List.mem_cons_of_mem _ (ih h)

/-- Nothing is found exactly if the key stands nowhere. -/
theorem lookup_eq_none_iff {key : κ} {pairs : List (κ × α)} :
    lookup key pairs = none ↔ ∀ p ∈ pairs, p.1 ≠ key := by
  induction pairs with
  | nil => simp
  | cons p rest ih =>
    obtain ⟨k, v⟩ := p
    by_cases hk : k = key
    · subst hk
      simp
    · simp [lookup_cons_ne hk, ih, hk]

theorem isSome_lookup_iff {key : κ} {pairs : List (κ × α)} :
    (lookup key pairs).isSome ↔ ∃ value, (key, value) ∈ pairs := by
  rw [← not_iff_not, Option.not_isSome_iff_eq_none, lookup_eq_none_iff]
  exact ⟨fun h ⟨value, hmem⟩ => h _ hmem rfl, fun h p hp e => h ⟨p.2, e ▸ hp⟩⟩

/-- If the keys are distinct then what is found is what stands in the list. -/
theorem lookup_eq_some_iff {key : κ} {value : α} {pairs : List (κ × α)}
    (distinct : (pairs.map (·.1)).Nodup) :
    lookup key pairs = some value ↔ (key, value) ∈ pairs := by
  refine ⟨mem_of_lookup, fun h => ?_⟩
  induction pairs with
  | nil => simp at h
  | cons p rest ih =>
    obtain ⟨k, v⟩ := p
    simp only [List.map_cons, List.nodup_cons] at distinct
    rcases List.mem_cons.mp h with heq | hmem
    · cases heq
      simp
    · have hk : k ≠ key := fun e => distinct.1 (e ▸ List.mem_map_of_mem (f := (·.1)) hmem)
      rw [lookup_cons_ne hk]
      exact ih distinct.2 hmem

/-- With distinct keys the order of the pairs does not matter. -/
theorem lookup_perm {pairs pairs' : List (κ × α)} (h : pairs.Perm pairs')
    (distinct : (pairs.map (·.1)).Nodup) (key : κ) : lookup key pairs = lookup key pairs' := by
  have distinct' := (h.map (·.1)).nodup distinct
  refine Option.ext fun value => ?_
  rw [lookup_eq_some_iff distinct, lookup_eq_some_iff distinct', h.mem_iff]

@[simp] theorem lookup_map (f : κ → α → β) (key : κ) (pairs : List (κ × α)) :
    lookup key (pairs.map fun p => (p.1, f p.1 p.2)) = (lookup key pairs).map (f key) := by
  induction pairs with
  | nil => rfl
  | cons p rest ih =>
    obtain ⟨k, v⟩ := p
    by_cases hk : k = key
    · subst hk
      simp
    · simpa [lookup_cons_ne hk] using ih

theorem lookup_append (key : κ) (front back : List (κ × α)) :
    lookup key (front ++ back) = (lookup key front).or (lookup key back) := by
  induction front with
  | nil => simp
  | cons p rest ih =>
    obtain ⟨k, v⟩ := p
    by_cases hk : k = key
    · subst hk
      simp
    · simpa [lookup_cons_ne hk] using ih

/-- A filter on keys hides the others. -/
theorem lookup_filter (keep : κ → Bool) (key : κ) (pairs : List (κ × α)) :
    lookup key (pairs.filter fun p => keep p.1) =
      if keep key then lookup key pairs else none := by
  induction pairs with
  | nil => simp
  | cons p rest ih =>
    obtain ⟨k, v⟩ := p
    by_cases hk : k = key
    · subst hk
      by_cases hp : keep k <;> simp_all
    · by_cases hp : keep k <;> simp_all [lookup_cons_ne hk]

/-- Lists that go together pair by pair agree at every key. -/
theorem rel_lookup {R : α → β → Prop} {left : List (κ × α)} {right : List (κ × β)}
    (h : List.Forall₂ (fun a b => a.1 = b.1 ∧ R a.2 b.2) left right) (key : κ) :
    Option.Rel R (lookup key left) (lookup key right) := by
  induction h with
  | nil => exact .none
  | @cons p q left right hpq _ ih =>
    obtain ⟨k, a⟩ := p
    obtain ⟨l, b⟩ := q
    obtain ⟨rfl, hab⟩ := hpq
    by_cases hk : k = key
    · subst hk
      simpa using Option.Rel.some hab
    · rwa [lookup_cons_ne hk, lookup_cons_ne hk]

/-- A key below all keys leads nowhere. -/
theorem lookup_below [LT κ] [@Std.Irrefl κ (· < ·)] {key : κ} {pairs : List (κ × α)}
    (h : ∀ p ∈ pairs, key < p.1) : lookup key pairs = none :=
  lookup_eq_none_iff.mpr fun p hp e => Std.lt_irrefl (e ▸ h p hp)

variable [LT κ] [@Std.Irrefl κ (· < ·)] [@Trans κ κ κ (· < ·) (· < ·) (· < ·)]
  [@Std.Trichotomous κ (· < ·)]

/-- Lists in key order agree pair by pair if and only if they agree at every key. -/
theorem forall₂_iff_lookup {R : α → β → Prop} {left : List (κ × α)} {right : List (κ × β)}
    (hl : Increasing left) (hr : Increasing right) :
    List.Forall₂ (fun a b => a.1 = b.1 ∧ R a.2 b.2) left right ↔
      ∀ key, Option.Rel R (lookup key left) (lookup key right) := by
  constructor
  · exact rel_lookup
  · intro h
    induction left generalizing right with
    | nil =>
      cases right with
      | nil => exact .nil
      | cons q right =>
        have found := h q.1
        rw [lookup_nil, lookup_cons_self] at found
        cases found
    | cons p left ih =>
      obtain ⟨k, a⟩ := p
      obtain ⟨before, hl⟩ := increasing_cons.mp hl
      cases right with
      | nil =>
        have found := h k
        rw [lookup_nil, lookup_cons_self] at found
        cases found
      | cons q right =>
        obtain ⟨l, b⟩ := q
        obtain ⟨before', hr'⟩ := increasing_cons.mp hr
        -- The smaller of two different first keys would be missing on the other side.
        rcases Std.lt_trichotomy k l with hkl | rfl | hlk
        · have found := h k
          rw [lookup_cons_self, lookup_below (below_of_below_head hkl before')] at found
          cases found
        · have found := h k
          rw [lookup_cons_self, lookup_cons_self] at found
          obtain ⟨hab⟩ := found
          refine .cons ⟨rfl, hab⟩ (ih hl hr' fun key => ?_)
          by_cases hk : k = key
          · subst hk
            rw [lookup_below before, lookup_below before']
            exact .none
          · simpa [lookup_cons_ne hk] using h key
        · have found := h l
          rw [lookup_cons_self, lookup_below (below_of_below_head hlk before)] at found
          cases found

/-- Pairs in key order are the same if every key leads to the same. -/
theorem eq_of_lookup {left right : List (κ × α)} (hl : Increasing left) (hr : Increasing right)
    (h : ∀ key, lookup key left = lookup key right) : left = right := by
  have pairwise := (forall₂_iff_lookup (R := Eq) hl hr).mpr fun key => by
    rw [h key]
    cases lookup key right with
    | none => exact .none
    | some value => exact .some rfl
  rw [← List.forall₂_eq_eq_eq]
  exact pairwise.imp fun _ _ h => Prod.ext h.1 h.2

end Lookup

/-! ## Changing one key -/

variable [DecidableEq κ]

def erase (key : κ) (pairs : List (κ × α)) : List (κ × α) := pairs.filter fun p => p.1 ≠ key

theorem lookup_erase (key other : κ) (pairs : List (κ × α)) :
    lookup other (erase key pairs) = if other = key then none else lookup other pairs := by
  unfold erase
  rw [lookup_filter (fun k => decide (k ≠ key))]
  by_cases h : other = key <;> simp [h]

variable [LT κ] [DecidableLT κ]

/-- Gives a key a value, or takes the key out. -/
def assign (key : κ) : Option α → List (κ × α) → List (κ × α)
  | some value, pairs => insert key value pairs
  | none, pairs => erase key pairs

theorem lookup_insert (key other : κ) (value : α) (pairs : List (κ × α)) :
    lookup other (insert key value pairs) =
      if other = key then some value else lookup other pairs := by
  induction pairs with
  | nil =>
    simp only [insert, lookup]
    by_cases h : key = other <;> simp [h, eq_comm]
  | cons p rest ih =>
    obtain ⟨k, v⟩ := p
    simp only [insert]
    split_ifs with hlt heq h h h
    all_goals simp_all [lookup, eq_comm]

/-- Assigning changes what one key leads to and nothing else. -/
@[simp] theorem lookup_assign (key other : κ) (value : Option α) (pairs : List (κ × α)) :
    lookup other (assign key value pairs) = if other = key then value else lookup other pairs := by
  cases value with
  | none => exact lookup_erase key other pairs
  | some value => exact lookup_insert key other value pairs

theorem mem_insert {key : κ} {value : α} {pairs : List (κ × α)} {p : κ × α}
    (h : p ∈ insert key value pairs) : p = (key, value) ∨ p ∈ pairs := by
  induction pairs with
  | nil => simpa [insert] using h
  | cons q rest ih =>
    obtain ⟨k, v⟩ := q
    simp only [insert] at h
    split_ifs at h with hlt heq
    all_goals grind

/-! ## Collecting -/

/-- Collected pairs are among the pairs they were collected from. -/
theorem mem_of_mem_collect {pairs : List (κ × α)} : ∀ p ∈ collect pairs, p ∈ pairs := by
  refine List.foldlRecOn (motive := fun done => ∀ p ∈ done, p ∈ pairs) pairs _ (by simp)
    fun done h p hp q hq => ?_
  rcases mem_insert hq with rfl | hq
  · exact hp
  · exact h q hq

/-- Inserting a new key adds a pair. -/
theorem insert_perm {key : κ} {pairs : List (κ × α)} (new : ∀ p ∈ pairs, p.1 ≠ key) (value : α) :
    (insert key value pairs).Perm ((key, value) :: pairs) := by
  induction pairs with
  | nil => exact .refl _
  | cons p rest ih =>
    obtain ⟨k, v⟩ := p
    simp only [List.forall_mem_cons] at new
    simp only [insert]
    split_ifs with hlt heq
    · exact .refl _
    · exact absurd heq.symm new.1
    · exact ((ih new.2).cons _).trans (.swap _ _ _)

/-- Of distinct keys none is lost. -/
theorem collect_perm {pairs : List (κ × α)} (distinct : (pairs.map (·.1)).Nodup) :
    (collect pairs).Perm pairs := by
  -- The pairs already collected and those to come have distinct keys at every step.
  have step (pairs : List (κ × α)) : ∀ done : List (κ × α), ((done ++ pairs).map (·.1)).Nodup →
      (pairs.foldl (fun done p => insert p.1 p.2 done) done).Perm (done ++ pairs) := by
    induction pairs with
    | nil => simp
    | cons p rest ih =>
      intro done distinct
      have new : ∀ q ∈ done, q.1 ≠ p.1 := by
        simp only [List.map_append, List.nodup_append, List.map_cons, List.mem_cons] at distinct
        exact fun q hq => distinct.2.2 _ (List.mem_map_of_mem hq) _ (.inl rfl)
      have front := (insert_perm new p.2).append_right rest
      have moved : ((p :: done) ++ rest).Perm (done ++ p :: rest) := List.perm_middle.symm
      have all := front.trans moved
      exact (ih _ ((all.map (·.1)).nodup_iff.mpr distinct)).trans all
  exact step pairs [] distinct

/-- Of equal keys the last one counts. -/
theorem lookup_collect_eq_reverse (pairs : List (κ × α)) (key : κ) :
    lookup key (collect pairs) = lookup key pairs.reverse := by
  have step (pairs : List (κ × α)) : ∀ done : List (κ × α),
      lookup key (pairs.foldl (fun done p => insert p.1 p.2 done) done) =
        (lookup key pairs.reverse).or (lookup key done) := by
    induction pairs with
    | nil => simp
    | cons p rest ih =>
      intro done
      rw [List.foldl_cons, ih, lookup_insert, List.reverse_cons, lookup_append, Option.or_assoc]
      by_cases h : key = p.1
      · simp [h, lookup]
      · simp [h, lookup, Ne.symm h]
  simpa [collect] using step pairs []

/-- Collecting pairs with distinct keys loses none of them. -/
theorem lookup_collect {pairs : List (κ × α)} (distinct : (pairs.map (·.1)).Nodup) (key : κ) :
    lookup key (collect pairs) = lookup key pairs :=
  (lookup_perm (collect_perm distinct).symm distinct key).symm

/-! ## Keeping the order -/

variable [@Trans κ κ κ (· < ·) (· < ·) (· < ·)] [@Std.Trichotomous κ (· < ·)]

/-- Inserting keeps the order. -/
theorem Increasing.insert {pairs : List (κ × α)} (h : Increasing pairs) (key : κ) (value : α) :
    Increasing (insert key value pairs) := by
  induction pairs with
  | nil => exact List.pairwise_singleton _ _
  | cons q rest ih =>
    obtain ⟨k, v⟩ := q
    obtain ⟨first, later⟩ := increasing_cons.mp h
    simp only [Keyed.insert]
    split_ifs with hlt heq
    · exact increasing_cons.mpr ⟨below_of_below_head hlt first, h⟩
    · subst heq
      exact increasing_cons.mpr ⟨first, later⟩
    · refine increasing_cons.mpr ⟨fun p hp => ?_, ih later⟩
      rcases mem_insert hp with rfl | hp
      · exact (Std.lt_trichotomy k key).resolve_right
          (fun h' => h'.elim (fun e => heq e.symm) hlt)
      · exact first p hp

theorem Increasing.assign {pairs : List (κ × α)} (h : Increasing pairs) (key : κ)
    (value : Option α) : Increasing (assign key value pairs) := by
  cases value with
  | none => exact h.filter _
  | some value => exact h.insert key value

/-- What was collected is in order, whatever order it came in. -/
theorem increasing_collect (pairs : List (κ × α)) : Increasing (collect pairs) :=
  List.foldlRecOn pairs _ increasing_nil fun _ h p _ => h.insert p.1 p.2

/-- Exactly if a key is repeated there are fewer pairs after collecting than before. -/
theorem length_collect_eq_iff [@Std.Irrefl κ (· < ·)] {pairs : List (κ × α)} :
    (collect pairs).length = pairs.length ↔ (pairs.map (·.1)).Nodup := by
  refine ⟨fun h => ?_, fun distinct => (collect_perm distinct).length_eq⟩
  -- The keys of what was collected are distinct, and they are as many as there were.
  have distinct := (increasing_collect pairs).nodup
  have kept : (collect pairs).map (·.1) ⊆ pairs.map (·.1) :=
    List.map_subset _ fun p hp => mem_of_mem_collect p hp
  exact ((distinct.subperm kept).perm_of_length_le (by simp [h])).nodup_iff.mp distinct

/-- Pairs in key order are collected as they are. -/
theorem collect_eq_self [@Std.Irrefl κ (· < ·)] {pairs : List (κ × α)} (h : Increasing pairs) :
    collect pairs = pairs := by
  refine (collect_perm h.nodup).eq_of_pairwise (fun a b _ _ hab hba => ?_)
    (increasing_collect pairs) h
  exact absurd (Std.lt_trans hab hba) Std.lt_irrefl

/-- Which of two different keys is inserted first does not matter. -/
theorem insert_comm [@Std.Irrefl κ (· < ·)] {key other : κ} (h : key ≠ other) (a b : α)
    {pairs : List (κ × α)} (increasing : Increasing pairs) :
    insert key a (insert other b pairs) = insert other b (insert key a pairs) := by
  refine eq_of_lookup ((increasing.insert _ _).insert _ _) ((increasing.insert _ _).insert _ _)
    fun k => ?_
  simp only [lookup_insert]
  by_cases hk : k = key <;> simp [hk, h]

/-- The order of two neighbours with different keys does not matter. -/
theorem collect_swap [@Std.Irrefl κ (· < ·)] (front back : List (κ × α)) {p q : κ × α}
    (h : p.1 ≠ q.1) : collect (front ++ p :: q :: back) = collect (front ++ q :: p :: back) := by
  have done := increasing_collect front
  simp only [collect, List.foldl_append, List.foldl_cons] at done ⊢
  rw [insert_comm h.symm q.2 p.2 done]

end ConformanceGate.Keyed
