import ConformanceGate.Json.Basic
import ConformanceGate.Proofs.Keyed
import Mathlib.Data.List.Forall2

/-!
# Places in a JSON value

A list of keys leads from a value through its objects to a place (`Json.follow?`). Objects in key
order are the same value exactly if every key leads to the same on both sides (`same_object_iff`).
`Json.put` changes what stands at one place.
-/

namespace ConformanceGate

@[simp] theorem Number.same_refl (n : Number) : n.same n := by
  cases n <;> simp [Number.same, Double.same_refl]

/-- Two lists of pairs in key order are the same members if and only if they agree pair by pair. -/
theorem Json.sameMembers_iff {left right : List (String × Json)} :
    sameMembers left right ↔
      List.Forall₂ (fun a b => a.1 = b.1 ∧ a.2.same b.2 = true) left right := by
  induction left generalizing right with
  | nil => cases right <;> simp [sameMembers]
  | cons p left ih =>
    obtain ⟨k, a⟩ := p
    cases right with
    | nil => simp [sameMembers]
    | cons q right => simp [sameMembers, ih, and_assoc]

namespace Json

def get? (v : Json) (key : String) : Option Json := v.members?.bind (Keyed.lookup key)

/-- What a list of keys leads to, one object after the other. -/
def follow? : Json → List String → Option Json
  | v, [] => some v
  | v, key :: keys => (v.get? key).bind fun found => found.follow? keys

/-- What two places hold is the same: nothing on both sides, or values that are the same. -/
def Alike (a b : Option Json) : Prop := Option.Rel (fun x y => x.same y = true) a b

/-- An object stands at the place. -/
def ObjectAt (v : Json) (keys : List String) : Prop :=
  ∃ members, v.follow? keys = some (.object members)

/-- What holds of all values without members, and of an object if it holds of its members, holds of
all values. -/
theorem members_induction {P : Json → Prop}
    (object : ∀ members, (∀ key value, (key, value) ∈ members → P value) → P (.object members))
    (other : ∀ v : Json, v.members? = none → P v) (v : Json) : P v := by
  refine @Json.rec P (fun _ => True) (fun members => ∀ key value, (key, value) ∈ members → P value)
    (fun p => P p.2) (other _ rfl) (fun _ => other _ rfl) (fun _ => other _ rfl)
    (fun _ => other _ rfl) (fun _ _ => other _ rfl) object trivial (fun _ _ _ _ => trivial)
    (fun _ _ h => nomatch h) (fun p rest first later key value h => ?_) (fun _ _ h => h) v
  rcases List.mem_cons.mp h with rfl | h
  · exact first
  · exact later key value h

/-! ## Objects -/

@[simp] theorem members?_object (members : List (String × Json)) :
    (object members).members? = some members := rfl

@[simp] theorem get?_object (members : List (String × Json)) (key : String) :
    (object members).get? key = Keyed.lookup key members := rfl

theorem get?_eq_none_of_members? {v : Json} (h : v.members? = none) (key : String) :
    v.get? key = none := by simp [get?, h]

theorem lookup_members?_getD (v : Json) (key : String) :
    Keyed.lookup key (v.members?.getD []) = v.get? key := by
  cases h : v.members? <;> simp [get?, h]

theorem members?_eq_some_iff {v : Json} {members : List (String × Json)} :
    v.members? = some members ↔ v = .object members := by
  cases v <;> simp [members?]

@[simp] theorem follow?_nil (v : Json) : v.follow? [] = some v := by simp [follow?]

@[simp] theorem follow?_cons (v : Json) (key : String) (keys : List String) :
    v.follow? (key :: keys) = (v.get? key).bind fun found => found.follow? keys := rfl

@[simp] theorem objectAt_nil {v : Json} : v.ObjectAt [] ↔ ∃ members, v = .object members := by
  simp [ObjectAt]

/-! ## Order -/

theorem orderedMembers_iff {members : List (String × Json)} :
    OrderedMembers members ↔ ∀ key value, (key, value) ∈ members → value.Ordered := by
  induction members with
  | nil => simp [OrderedMembers]
  | cons p rest ih =>
    obtain ⟨k, v⟩ := p
    simp [OrderedMembers, ih, or_imp, forall_and]

theorem ordered_object_iff {members : List (String × Json)} :
    (object members).Ordered ↔
      Keyed.Increasing members ∧ ∀ key value, (key, value) ∈ members → value.Ordered := by
  rw [← orderedMembers_iff, Ordered]

theorem Ordered.increasing {members : List (String × Json)} (h : (object members).Ordered) :
    Keyed.Increasing members := (ordered_object_iff.mp h).1

/-- What a key leads to in an ordered value is ordered. -/
theorem Ordered.get? {v found : Json} {key : String} (h : v.Ordered)
    (hf : v.get? key = some found) : found.Ordered := by
  cases hv : v.members? with
  | none => simp [get?_eq_none_of_members? hv] at hf
  | some members =>
    obtain rfl := members?_eq_some_iff.mp hv
    exact (ordered_object_iff.mp h).2 key found (Keyed.mem_of_lookup hf)

/-! ## Equality -/

mutual

/-- Every value is the same as itself. -/
@[simp] theorem same_refl : ∀ v : Json, v.same v
  | .null => rfl
  | .bool _ | .string _ => by simp [same]
  | .number n => by simp [same]
  | .array items => sameItems_refl items
  | .object members => sameMembers_refl members

theorem sameItems_refl : ∀ items : List Json, sameItems items items
  | [] => rfl
  | item :: rest => by simp [sameItems, same_refl item, sameItems_refl rest]

theorem sameMembers_refl : ∀ members : List (String × Json), sameMembers members members
  | [] => rfl
  | (_, value) :: rest => by simp [sameMembers, same_refl value, sameMembers_refl rest]

end

@[simp] theorem alike_none : Alike none none := .none

@[simp] theorem alike_some {a b : Json} : Alike (some a) (some b) ↔ a.same b :=
  Option.rel_some_some

@[simp] theorem not_alike_some_none {a : Json} : ¬ Alike (some a) none := nofun

@[simp] theorem not_alike_none_some {b : Json} : ¬ Alike none (some b) := nofun

/-- A relation between what two places hold: both hold nothing, or both hold related values. -/
theorem rel_iff {R : Json → Json → Prop} {a b : Option Json} :
    Option.Rel R a b ↔
      (a.isSome ↔ b.isSome) ∧ ∀ x y, a = some x → b = some y → R x y := by
  cases a <;> cases b <;> simp

theorem rel_congr {R S : Json → Json → Prop} {a b : Option Json}
    (h : ∀ x y, a = some x → b = some y → (R x y ↔ S x y)) :
    Option.Rel R a b ↔ Option.Rel S a b := by
  cases a <;> cases b <;> simp_all

/-- Objects in key order are the same if and only if every key leads to the same in both. -/
theorem same_object_iff {left right : List (String × Json)} (hl : Keyed.Increasing left)
    (hr : Keyed.Increasing right) :
    (object left).same (object right) ↔
      ∀ key, Alike (Keyed.lookup key left) (Keyed.lookup key right) := by
  rw [same, sameMembers_iff]
  exact Keyed.forall₂_iff_lookup (R := fun x y => x.same y = true) hl hr

/-! ## Changing a place -/

/-- What stands at a value's place after something, or nothing, was put where the keys lead. A way
that is no object all along leads nowhere. -/
def put : List String → Option Json → Option Json → Option Json
  | [], new, _ => new
  | key :: keys, new, some (.object members) =>
    some (.object (Keyed.assign key (put keys new (Keyed.lookup key members)) members))
  | _ :: _, _, old => old

@[simp] theorem put_nil (new old : Option Json) : put [] new old = new := by simp [put]

/-- Putting below a key of an object changes what that key leads to. -/
@[simp] theorem put_object (key : String) (keys : List String) (new : Option Json)
    (members : List (String × Json)) :
    put (key :: keys) new (some (.object members)) =
      some (.object (Keyed.assign key (put keys new (Keyed.lookup key members)) members)) := by
  simp [put]

end Json
end ConformanceGate
