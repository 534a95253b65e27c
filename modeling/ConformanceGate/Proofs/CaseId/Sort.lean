import ConformanceGate.CaseId.Sort
import ConformanceGate.Proofs.CaseId.Order
import ConformanceGate.Proofs.CaseId.Spelling
import Mathlib.Data.String.Basic
import Mathlib.Order.Compare

/-!
# Case keys in order

Comparing case keys is a strict total order, in which only a key and itself compare as equal
(`CaseId.compareKeys_eq_lt_iff`). So there is one way only in which given keys stand in order, and
sorting yields it however they stood before (`CaseId.sortKeys_inOrder`).
-/

namespace ConformanceGate

/-! ## Lists in order -/

/-- Two lists are the same up to a place, and there the relation holds between what they have. -/
inductive Forks {α : Type} (r : α → α → Prop) : List α → List α → Prop
  | here {a b : α} (xs ys : List α) : r a b → Forks r (a :: xs) (b :: ys)
  | later (a : α) {xs ys : List α} : Forks r xs ys → Forks r (a :: xs) (a :: ys)

/-- A list comes before another: it is a proper beginning of it, or where they part what it has
comes before what the other one has. -/
def Earlier {α : Type} (r : α → α → Prop) (xs ys : List α) : Prop :=
  (xs <+: ys ∧ xs ≠ ys) ∨ Forks r xs ys

section Earlier

variable {α : Type} {r : α → α → Prop}

theorem not_forks_nil_left {ys : List α} : ¬ Forks r [] ys := nofun

theorem not_forks_nil_right {xs : List α} : ¬ Forks r xs [] := nofun

/-- The fork is at the first place, or the first places agree and it is further on. -/
theorem forks_cons_iff {a b : α} {xs ys : List α} :
    Forks r (a :: xs) (b :: ys) ↔ r a b ∨ a = b ∧ Forks r xs ys := by
  constructor
  · rintro (⟨-, -, h⟩ | ⟨-, h⟩)
    · exact .inl h
    · exact .inr ⟨rfl, h⟩
  · rintro (h | ⟨rfl, h⟩)
    · exact .here xs ys h
    · exact .later a h

theorem earlier_cons_iff {a b : α} {xs ys : List α} :
    Earlier r (a :: xs) (b :: ys) ↔ r a b ∨ a = b ∧ Earlier r xs ys := by
  simp only [Earlier, forks_cons_iff, List.cons_prefix_cons, ne_eq, List.cons.injEq]
  grind

/-- This is the lexicographic order. -/
theorem earlier_iff_lex {xs ys : List α} : Earlier r xs ys ↔ List.Lex r xs ys := by
  induction xs generalizing ys with
  | nil => cases ys <;> simp [Earlier, not_forks_nil_left]
  | cons a xs ih =>
    cases ys with
    | nil => simp [Earlier, not_forks_nil_right]
    | cons b ys => rw [earlier_cons_iff, List.cons_lex_cons_iff, ih]

/-- Item by item, a comparison decides the order that it induces. -/
theorem compareLex_eq_lt_iff {cmp : α → α → Ordering} [Std.LawfulEqCmp cmp] {xs ys : List α} :
    List.compareLex cmp xs ys = .lt ↔ Earlier (fun a b => cmp a b = .lt) xs ys := by
  induction xs generalizing ys with
  | nil =>
    cases ys with
    | nil => simp [Earlier, not_forks_nil_left, List.compareLex_nil_nil]
    | cons b ys => simp [Earlier, List.compareLex_nil_cons]
  | cons a xs ih =>
    cases ys with
    | nil => simp [Earlier, not_forks_nil_right, List.compareLex_cons_nil]
    | cons b ys =>
      rw [List.compareLex_cons_cons, earlier_cons_iff, Ordering.then_eq_lt, ih,
        Std.LawfulEqCmp.compare_eq_iff_eq]

end Earlier

namespace CaseId

/-! ## The comparison of keys -/

/-- The text of no identifier. -/
def Foreign (s : String) : Prop := ∀ x : CaseId, x.text ≠ s

/-- A key comes before another: identifiers by their numbers, an identifier before any other text,
and other texts by their characters. -/
inductive Before : String → String → Prop
  | ids {x y : CaseId} : Earlier (· < ·) x.segments y.segments → Before x.text y.text
  | idFirst (x : CaseId) {s : String} : Foreign s → Before x.text s
  | others {s t : String} : Foreign s → Foreign t → Earlier (· < ·) s.toList t.toList → Before s t

theorem parse?_text (x : CaseId) : parse? x.text = some x := parse?_eq_some_iff.mpr rfl

theorem foreign_iff {s : String} : Foreign s ↔ parse? s = none := by
  rw [Option.eq_none_iff_forall_ne_some]
  exact forall_congr' fun x => not_congr (parse?_eq_some_iff.trans eq_comm).symm

theorem compare_eq_lt_iff {x y : CaseId} :
    x.compare y = .lt ↔ Earlier (· < ·) x.segments y.segments := by
  have numbers : (fun m n : UInt32 => Ord.compare m n = .lt) = (· < ·) := by
    funext m n
    exact propext Std.compare_eq_lt
  rw [compare, List.compare_eq_compareLex, compareLex_eq_lt_iff, numbers]

theorem compare_text_eq_lt_iff {s t : String} :
    Ord.compare s t = .lt ↔ Earlier (· < ·) s.toList t.toList := by
  rw [earlier_iff_lex, compare_lt_iff_lt, String.lt_iff_toList_lt]
  rfl

/-- Comparing keys the other way round gives the opposite answer. -/
theorem compareKeys_swap (a b : String) : compareKeys a b = (compareKeys b a).swap := by
  cases ha : parse? a <;> cases hb : parse? b <;> simp only [compareKeys, ha, hb]
  · exact Std.OrientedOrd.eq_swap
  · rfl
  · rfl
  · exact Std.OrientedOrd.eq_swap

instance : Std.OrientedCmp compareKeys := ⟨compareKeys_swap _ _⟩

instance : Std.TransCmp compareKeys where
  isLE_trans {a b c} hab hbc := by
    cases ha : parse? a <;> cases hb : parse? b <;> cases hc : parse? c <;>
      simp only [compareKeys, ha, hb, hc] at hab hbc ⊢
    -- Two classes are ordered each for itself, and one stands before the other.
    case none.none.none => exact Std.TransOrd.isLE_trans hab hbc
    case some.some.some => exact Std.TransOrd.isLE_trans hab hbc
    case some.none.none | some.some.none => rfl
    all_goals contradiction

instance : Std.LawfulEqCmp compareKeys where
  compare_self {a} := by
    cases ha : parse? a <;> simp [compareKeys, compare, ha]
  eq_of_compare {a b} h := by
    cases ha : parse? a <;> cases hb : parse? b <;> simp only [compareKeys, ha, hb] at h
    case none.none => exact Std.LawfulEqOrd.eq_of_compare h
    case some.some x y =>
      -- An identifier has one spelling, so equal numbers are equal keys.
      obtain rfl : x = y := segments_injective (Std.LawfulEqOrd.eq_of_compare h)
      rw [parse?_eq_some_iff.mp ha, parse?_eq_some_iff.mp hb]
    all_goals contradiction

/-- The comparison of keys decides which one comes before the other. -/
theorem compareKeys_eq_lt_iff {a b : String} : compareKeys a b = .lt ↔ Before a b := by
  constructor
  · intro h
    cases ha : parse? a <;> cases hb : parse? b <;> simp only [compareKeys, ha, hb] at h
    case none.none =>
      exact .others (foreign_iff.mpr ha) (foreign_iff.mpr hb) (compare_text_eq_lt_iff.mp h)
    case some.none x =>
      rw [parse?_eq_some_iff.mp ha]
      exact .idFirst x (foreign_iff.mpr hb)
    case some.some x y =>
      rw [parse?_eq_some_iff.mp ha, parse?_eq_some_iff.mp hb]
      exact .ids (compare_eq_lt_iff.mp h)
    case none.some => contradiction
  · rintro (h | ⟨x, hb⟩ | ⟨ha, hb, h⟩)
    · simpa only [compareKeys, parse?_text] using compare_eq_lt_iff.mpr h
    · simp only [compareKeys, parse?_text, foreign_iff.mp hb]
    · simpa only [compareKeys, foreign_iff.mp ha, foreign_iff.mp hb] using
        compare_text_eq_lt_iff.mpr h

theorem isLE_compareKeys_iff {a b : String} : (compareKeys a b).isLE ↔ a = b ∨ Before a b := by
  rw [Ordering.isLE_iff_eq_lt_or_eq_eq, compareKeys_eq_lt_iff, Std.LawfulEqCmp.compare_eq_iff_eq,
    or_comm]

theorem Before.trans {a b c : String} (hab : Before a b) (hbc : Before b c) : Before a c := by
  rw [← compareKeys_eq_lt_iff] at hab hbc ⊢
  exact Std.TransCmp.lt_trans hab hbc

theorem not_before_self (a : String) : ¬ Before a a := by
  have self : compareKeys a a = .eq := Std.ReflCmp.compare_self
  rw [← compareKeys_eq_lt_iff, self]
  nofun

theorem Before.asymm {a b : String} (hab : Before a b) : ¬ Before b a := fun hba =>
  not_before_self a (hab.trans hba)

/-- Among identifiers the first number that differs decides. -/
theorem before_ids_iff {x y : CaseId} :
    Before x.text y.text ↔ Earlier (· < ·) x.segments y.segments := by
  rw [← compareKeys_eq_lt_iff, ← compare_eq_lt_iff]
  simp only [compareKeys, parse?_text]

theorem Foreign.not_before_id {s : String} (h : Foreign s) (x : CaseId) : ¬ Before s x.text := by
  rw [← compareKeys_eq_lt_iff]
  simp [compareKeys, parse?_text, foreign_iff.mp h]

/-- Among texts that are no identifiers the first character that differs decides. -/
theorem before_others_iff {s t : String} (hs : Foreign s) (ht : Foreign t) :
    Before s t ↔ Earlier (· < ·) s.toList t.toList := by
  rw [← compareKeys_eq_lt_iff, ← compare_text_eq_lt_iff]
  simp only [compareKeys, foreign_iff.mp hs, foreign_iff.mp ht]

/-! ## Sorted keys -/

/-- Keys stand in order: first identifiers, in the order of their numbers, and then all other texts,
in the order of their characters. A key may occur several times. -/
def InOrder (keys : List String) : Prop :=
  ∃ (ids : List CaseId) (others : List String), keys = ids.map text ++ others ∧
    ids.Pairwise (fun x y => x = y ∨ Earlier (· < ·) x.segments y.segments) ∧
    (∀ s ∈ others, Foreign s) ∧
    others.Pairwise fun s t => s = t ∨ Earlier (· < ·) s.toList t.toList

/-- Keys in order come pairwise before each other, or are the same. -/
theorem InOrder.pairwise {keys : List String} (h : InOrder keys) :
    keys.Pairwise fun a b => a = b ∨ Before a b := by
  obtain ⟨ids, others, rfl, numbers, foreign, letters⟩ := h
  refine List.pairwise_append.mpr ⟨List.pairwise_map.mpr (numbers.imp ?_), ?_, ?_⟩
  · rintro x y (rfl | h)
    · exact .inl rfl
    · exact .inr (.ids h)
  · refine letters.imp_of_mem fun {s t} hs ht h => ?_
    exact h.imp_right (.others (foreign s hs) (foreign t ht))
  · intro a ha b hb
    obtain ⟨x, -, rfl⟩ := List.mem_map.mp ha
    exact .inr (.idFirst x (foreign b hb))

/-- Keys that come pairwise before each other are identifiers by their numbers, and then the other
texts by their characters. -/
theorem inOrder_of_pairwise {keys : List String}
    (h : keys.Pairwise fun a b => a = b ∨ Before a b) : InOrder keys := by
  induction keys with
  | nil => exact ⟨[], [], rfl, .nil, by simp, .nil⟩
  | cons key keys ih =>
    obtain ⟨first, rest⟩ := List.pairwise_cons.mp h
    obtain ⟨ids, others, rfl, numbers, foreign, letters⟩ := ih rest
    by_cases hkey : Foreign key
    · -- No identifier may follow.
      obtain rfl : ids = [] := by
        refine List.eq_nil_iff_forall_not_mem.mpr fun x hx => ?_
        rcases first x.text (List.mem_append_left _ (List.mem_map_of_mem hx)) with same | before
        · exact hkey x same.symm
        · exact hkey.not_before_id x before
      refine ⟨[], key :: others, rfl, .nil, List.forall_mem_cons.mpr ⟨hkey, foreign⟩,
        List.pairwise_cons.mpr ⟨fun s hs => ?_, letters⟩⟩
      exact (first s (by simpa using hs)).imp_right (before_others_iff hkey (foreign s hs)).mp
    · obtain ⟨x, rfl⟩ : ∃ x : CaseId, x.text = key := by simpa [Foreign] using hkey
      refine ⟨x :: ids, others, rfl, List.pairwise_cons.mpr ⟨fun y hy => ?_, numbers⟩, foreign,
        letters⟩
      have after := first y.text (List.mem_append_left _ (List.mem_map_of_mem hy))
      exact after.imp (fun same => text_injective same) before_ids_iff.mp

/-- Sorting neither loses nor adds a key. -/
theorem sortKeys_perm (keys : List String) : (sortKeys keys).Perm keys := List.mergeSort_perm _ _

/-- Sorting puts every key before those that it comes before. -/
theorem pairwise_sortKeys (keys : List String) :
    (sortKeys keys).Pairwise fun a b => a = b ∨ Before a b := by
  have total (a b : String) : (compareKeys a b).isLE || (compareKeys b a).isLE := by
    rw [compareKeys_swap b a, Ordering.isLE_swap]
    cases compareKeys a b <;> rfl
  have sorted : (sortKeys keys).Pairwise fun a b => (compareKeys a b).isLE :=
    List.pairwise_mergeSort (fun _ _ _ => Std.TransCmp.isLE_trans) total keys
  exact sorted.imp isLE_compareKeys_iff.mp

/-- There is one way only in which given keys stand in order. -/
theorem InOrder.eq_of_perm {keys other : List String} (h : InOrder keys) (h' : InOrder other)
    (perm : keys.Perm other) : keys = other := by
  refine List.Perm.eq_of_pairwise (fun a b _ _ hab hba => ?_) h.pairwise h'.pairwise perm
  rcases hab with rfl | hab
  · rfl
  · rcases hba with rfl | hba
    · rfl
    · exact absurd hba hab.asymm

/-- Sorting yields exactly the one list of the same keys that stands in order: first the
identifiers, by their numbers, a proper beginning first, then the other keys by their characters. So
the same keys are sorted alike however they stood before. Keys are compared by a strict total order,
and only a key and itself are equal for it. -/
theorem sortKeys_inOrder (keys : List String) :
    (∀ sorted, sortKeys keys = sorted ↔ sorted.Perm keys ∧ InOrder sorted) ∧
    (∀ other, sortKeys keys = sortKeys other ↔ keys.Perm other) ∧
    (∀ a b, (compareKeys a b = .lt ↔ Before a b) ∧ (compareKeys a b = .eq ↔ a = b) ∧
      (compareKeys a b = .gt ↔ Before b a)) ∧
    ∀ a b c, Before a b → Before b c → Before a c := by
  have inOrder (keys : List String) : InOrder (sortKeys keys) :=
    inOrder_of_pairwise (pairwise_sortKeys keys)
  refine ⟨fun sorted => ⟨?_, ?_⟩, fun other => ⟨fun same => ?_, fun perm => ?_⟩, fun a b => ?_,
    fun a b c => Before.trans⟩
  · rintro rfl
    exact ⟨sortKeys_perm keys, inOrder keys⟩
  · rintro ⟨perm, ordered⟩
    exact (inOrder keys).eq_of_perm ordered ((sortKeys_perm keys).trans perm.symm)
  · have back : (sortKeys keys).Perm other := by
      rw [same]
      exact sortKeys_perm other
    exact (sortKeys_perm keys).symm.trans back
  · exact (inOrder keys).eq_of_perm (inOrder other)
      ((sortKeys_perm keys).trans (perm.trans (sortKeys_perm other).symm))
  · exact ⟨compareKeys_eq_lt_iff, Std.LawfulEqCmp.compare_eq_iff_eq,
      Std.OrientedCmp.gt_iff_lt.trans compareKeys_eq_lt_iff⟩

/-- Identifiers and other texts, one of them almost an identifier. -/
theorem sortKeys_inOrder_sample :
    let keys := ["zeta", "10.1.1", "1.2.1", "01", "2.3.1", "1.2"]
    let sorted := ["1.2", "1.2.1", "2.3.1", "10.1.1", "01", "zeta"]
    sortKeys keys = sorted ∧ sortKeys sorted = sorted ∧
      Before "2.3.1" "10.1.1" ∧ Before "10.1.1" "01" ∧ Before "2.3.1" "01" := by
  intro keys sorted
  have inOrder : InOrder sorted := by
    have pairs : sorted.Pairwise fun a b => (compareKeys a b).isLE := by decide +kernel
    exact inOrder_of_pairwise (pairs.imp isLE_compareKeys_iff.mp)
  have perm : sorted.Perm keys := by decide
  obtain ⟨iff, same, order, trans⟩ := sortKeys_inOrder keys
  have found : sortKeys keys = sorted := (iff sorted).mpr ⟨perm, inOrder⟩
  have again : sortKeys sorted = sorted := ((same sorted).mpr perm.symm).symm.trans found
  have numbers : Before "2.3.1" "10.1.1" := (order _ _).1.mp (by decide +kernel)
  have letters : Before "10.1.1" "01" := (order _ _).1.mp (by decide +kernel)
  exact ⟨found, again, numbers, letters, trans _ _ _ numbers letters⟩

end CaseId
end ConformanceGate
