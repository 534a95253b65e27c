import ConformanceGate.Document.Decode
import ConformanceGate.Proofs.Except
import ConformanceGate.Proofs.Keyed
import Mathlib.Data.List.Nodup

/-!
# Laying tables over records

A table holds each key once. Where each field of a record has a place of its own, and nothing but
the fields is accepted, a record is filled from a table exactly if each key of the table is a field
and each value that is given fits; then the places of the given fields hold their values, and all
others what they held before (`Slots.fill_table_iff`). The order of the table does not matter.
-/

namespace ConformanceGate

def Written.table (entries : List (String × Written)) : Written :=
  .object (entries.map fun e => (.ok e.1, e.2)) none

theorem Written.table_inj {entries entries' : List (String × Written)} :
    Written.table entries = .table entries' ↔ entries = entries' := by
  constructor
  · intro same
    injection same with same
    refine (List.map_inj_right fun e e' pair => ?_).mp same
    grind
  · exact congrArg _

/-- A place of a record together with the field that fills it. -/
structure Slot (ρ : Type) where
  {α : Type}
  name : String
  decoder : Decoder α
  get : ρ → α
  put : α → ρ → ρ

variable {ρ : Type} {shape : Shape ρ} {slots : List (Slot ρ)} {t : Terms}
  {entries : List (String × Written)} {before after : ρ}

namespace Slot

def field (s : Slot ρ) : Field ρ := .of s.name s.decoder s.put

/-- The place holds what the table gives for it, and what it held before if nothing is given. -/
def Holds (s : Slot ρ) (t : Terms) (entries : List (String × Written)) (before after : ρ) : Prop :=
  match Keyed.lookup s.name entries with
  | none => s.get after = s.get before
  | some w => s.decoder t w = .ok (s.get after)

theorem holds_of_absent {s : Slot ρ} (absent : Keyed.lookup s.name entries = none) :
    s.Holds t entries before after ↔ s.get after = s.get before := by
  simp [Holds, absent]

theorem holds_of_given {s : Slot ρ} {w : Written} (given : Keyed.lookup s.name entries = some w) :
    s.Holds t entries before after ↔ s.decoder t w = .ok (s.get after) := by
  simp [Holds, given]

end Slot

/-- The fields of a record have places of their own, which are all that the record consists of, and
nothing but the fields is accepted. -/
structure Slots (shape : Shape ρ) (slots : List (Slot ρ)) : Prop where
  fields : shape.fields = slots.map Slot.field
  refuses : shape.others = .refuse
  distinct : (slots.map Slot.name).Nodup
  own : ∀ s ∈ slots, ∀ a r, s.get (s.put a r) = a
  apart : ∀ s ∈ slots, ∀ s' ∈ slots, s.name ≠ s'.name → ∀ a r, s.get (s'.put a r) = s.get r
  all : ∀ r r', (∀ s ∈ slots, s.get r = s.get r') → r = r'

namespace Slots

theorem eq_of_name (h : Slots shape slots) {s s' : Slot ρ} (hs : s ∈ slots) (hs' : s' ∈ slots)
    (same : s.name = s'.name) : s = s' :=
  List.inj_on_of_nodup_map h.distinct hs hs' same

theorem find?_field (h : Slots shape slots) {s : Slot ρ} (hs : s ∈ slots) :
    shape.fields.find? (fun f => f.name = s.name) = some s.field := by
  rw [h.fields, List.find?_map, Option.map_eq_some_iff]
  obtain ⟨found, hfound⟩ : ∃ found, slots.find? (fun s' => s'.name = s.name) = some found :=
    Option.isSome_iff_exists.mp (List.find?_isSome.mpr ⟨s, hs, by simp⟩)
  have same : found.name = s.name := by simpa using List.find?_some hfound
  rw [h.eq_of_name (List.mem_of_find?_eq_some hfound) hs same] at hfound
  exact ⟨s, hfound, rfl⟩

theorem find?_eq_none (h : Slots shape slots) {key : String} (unknown : key ∉ slots.map Slot.name) :
    shape.fields.find? (fun f => f.name = key) = none := by
  rw [h.fields, List.find?_eq_none]
  intro f hf
  obtain ⟨s, hs, rfl⟩ := List.mem_map.mp hf
  have other : s.name ≠ key := fun same => unknown (same ▸ List.mem_map_of_mem hs)
  exact fun same => other (of_decide_eq_true same)

/-- Once the first entry is put in its place, the rest of the table decides about all others. -/
theorem holds_cons_iff (h : Slots shape slots) {s : Slot ρ} (hs : s ∈ slots) {w : Written}
    (new : s.name ∉ entries.map (·.1)) :
    (∀ s' ∈ slots, s'.Holds t ((s.name, w) :: entries) before after) ↔
      ∃ a, s.decoder t w = .ok a ∧ ∀ s' ∈ slots, s'.Holds t entries (s.put a before) after := by
  have given : Keyed.lookup s.name ((s.name, w) :: entries) = some w :=
    Keyed.lookup_cons_self ..
  have absent : Keyed.lookup s.name entries = none := by
    rw [Keyed.lookup_eq_none_iff]
    exact fun e he same => new (same ▸ List.mem_map_of_mem he)
  -- a place other than that of the first entry is left alone by it
  have other : ∀ s' ∈ slots, s'.name ≠ s.name → ∀ a,
      (s'.Holds t ((s.name, w) :: entries) before after ↔
        s'.Holds t entries (s.put a before) after) := by
    intro s' hs' ne a
    rw [Slot.Holds, Slot.Holds, Keyed.lookup_cons_ne ne.symm, h.apart s' hs' s hs ne]
  constructor
  · intro holds
    refine ⟨s.get after, (Slot.holds_of_given given).mp (holds s hs), fun s' hs' => ?_⟩
    by_cases same : s'.name = s.name
    · obtain rfl := h.eq_of_name hs' hs same
      rw [Slot.holds_of_absent absent, h.own s' hs']
    · exact (other s' hs' same _).mp (holds s' hs')
  · rintro ⟨a, read, holds⟩ s' hs'
    by_cases same : s'.name = s.name
    · obtain rfl := h.eq_of_name hs' hs same
      have got := (Slot.holds_of_absent absent).mp (holds s' hs')
      rw [Slot.holds_of_given given, read, got, h.own s' hs']
    · exact (other s' hs' same a).mpr (holds s' hs')

/-- Entries with distinct keys, none of them seen before, are put in their places one by one. -/
theorem fillMembers_iff (h : Slots shape slots) (distinct : (entries.map (·.1)).Nodup)
    {seen : List String} (unseen : ∀ e ∈ entries, e.1 ∉ seen) :
    (shape.fillMembers t (entries.map fun e => (.ok e.1, e.2)) none seen before).map (·.1) =
        .ok after ↔
      (∀ e ∈ entries, e.1 ∈ slots.map Slot.name) ∧
        ∀ s ∈ slots, s.Holds t entries before after := by
  induction entries generalizing seen before with
  | nil =>
    simp only [List.map_nil, Shape.fillMembers, Except.map, Except.ok.injEq, List.not_mem_nil,
      false_implies, implies_true, true_and, Slot.holds_of_absent (Keyed.lookup_nil _)]
    exact ⟨fun same s _ => same ▸ rfl, fun same => h.all _ _ fun s hs => (same s hs).symm⟩
  | cons e rest ih =>
    obtain ⟨key, w⟩ := e
    simp only [List.map_cons, List.nodup_cons, List.forall_mem_cons] at distinct unseen
    have later : ∀ e ∈ rest, e.1 ∉ key :: seen := by
      intro e he
      have other : e.1 ≠ key := fun same => distinct.1 (same ▸ List.mem_map_of_mem he)
      simp [other, unseen.2 e he]
    rw [List.map_cons, Shape.fillMembers]
    by_cases known : key ∈ slots.map Slot.name
    · obtain ⟨s, hs, rfl⟩ := List.mem_map.mp known
      rw [h.find?_field hs, h.holds_cons_iff hs distinct.1]
      simp only [unseen.1, if_false, List.forall_mem_cons, known, true_and]
      cases read : s.decoder t w with
      | error refusal => simp [Slot.field, Field.of, read, Except.map, bind, Except.bind]
      | ok a =>
        have rest := @ih (s.put a before) distinct.2 _ later
        simpa [Slot.field, Field.of, read, Except.map, bind, Except.bind] using rest
    · have unknown : ¬∀ e ∈ (key, w) :: rest, e.1 ∈ slots.map Slot.name :=
        fun all => known (all (key, w) (by simp))
      simp only [h.find?_eq_none known, h.refuses, Except.map, reduceCtorEq, unknown, false_and]

/-- A record is laid over by a table. -/
theorem fill_table_iff (h : Slots shape slots) (distinct : (entries.map (·.1)).Nodup) {levels : Nat}
    (deep : t.levels = levels + 1) :
    (shape.fill t (.table entries) before).map (·.1) = .ok after ↔
      (∀ e ∈ entries, e.1 ∈ slots.map Slot.name) ∧
        ∀ s ∈ slots, s.Holds { t with levels } entries before after := by
  have entered : t.enter = .ok { t with levels } := by
    rw [Terms.enter, deep]
  rw [Written.table, Shape.fill, entered]
  exact h.fillMembers_iff distinct (by simp)

end Slots
end ConformanceGate
