import ConformanceGate.Document.Decode

/-!
# Decoding values

On the tree of a value a decoder is a partial function of the value (`Decoder.Reads`), and refuses
what it is not defined on for a value that does not fit. A record whose members have distinct keys
is filled member by member: each one is taken into the draft, and nothing else happens
(`Shape.fillMembers_ofMembers`).
-/

namespace ConformanceGate

variable {α ρ : Type}

namespace Json

def text? : Json → Option String
  | .string s => some s
  | _ => none

def count? : Json → Option Nat
  | .number (.integer (.ofNat n)) => some n
  | _ => none

/-- The count that a value is, if it is below the limit. -/
def countBelow? (limit : Nat) (v : Json) : Option Nat := v.count?.filter (· < limit)

/-- What a value is read as where null stands for nothing. -/
def ifAny (read : Json → Option α) : Json → Option (Option α)
  | .null => some none
  | v => (read v).map some

theorem isSome_text?_iff {v : Json} : v.text?.isSome ↔ ∃ s, v = .string s := by
  cases v <;> simp [text?]

/-- The counts are the whole numbers of 64 bits that are not negative. -/
theorem count?_eq_some_iff {v : Json} {n : Nat} : v.count? = some n ↔ v = .nat n := by
  constructor
  · intro h
    unfold count? at h
    split at h <;> cases h
    rfl
  · rintro rfl
    rfl

theorem countBelow?_eq_some_iff {limit n : Nat} {v : Json} :
    v.countBelow? limit = some n ↔ n < limit ∧ v = .nat n := by
  rw [countBelow?, Option.filter_eq_some_iff, count?_eq_some_iff, decide_eq_true_iff, and_comm]

theorem ifAny_of_ne {read : Json → Option α} {v : Json} (h : v ≠ .null) :
    v.ifAny read = (read v).map some := by
  cases v with
  | null => exact absurd rfl h
  | _ => rfl

theorem isSome_ifAny_iff {read : Json → Option α} {v : Json} :
    (v.ifAny read).isSome ↔ v = .null ∨ (read v).isSome := by
  by_cases h : v = .null
  · simp [h, ifAny]
  · simp [h, ifAny_of_ne]

theorem isSome_ifAny_text?_iff {v : Json} :
    (v.ifAny text?).isSome ↔ v = .null ∨ ∃ s, v = .string s := by
  rw [isSome_ifAny_iff, isSome_text?_iff]

theorem isSome_ifAny_countBelow?_iff {limit : Nat} {v : Json} :
    (v.ifAny (countBelow? limit)).isSome ↔ v = .null ∨ ∃ n : Nat, n < limit ∧ v = .nat n := by
  rw [isSome_ifAny_iff]
  simp only [Option.isSome_iff_exists, countBelow?_eq_some_iff]

/-- What a value is read as agrees with a wider reading that has nothing to say of null. -/
theorem eq_of_ifAny {read wider : Json → Option α} (null : wider .null = none)
    (agrees : ∀ v a, read v = some a → wider v = some a) {v : Json} {a : Option α}
    (h : v.ifAny read = some a) : a = wider v := by
  by_cases hv : v = .null
  · simp_all [ifAny]
  · rw [ifAny_of_ne hv, Option.map_eq_some_iff] at h
    obtain ⟨a, found, rfl⟩ := h
    exact (agrees v a found).symm

end Json

/-! ## Decoders -/

namespace Decoder

/-- On the tree of a value the decoder gives what the value is read as, and refuses all other
values as not fitting. -/
def Reads (d : Decoder α) (read : Json → Option α) : Prop :=
  ∀ t v, (∃ a, read v = some a ∧ d t (.ofJson v) = .ok a) ∨
    (read v = none ∧ ∃ m, d t (.ofJson v) = .error (.mismatch m))

theorem string_reads : Decoder.string.Reads Json.text? := by
  intro t v
  cases v with
  | number n => cases n <;> exact .inr ⟨rfl, _, rfl⟩
  | string s => exact .inl ⟨s, rfl, rfl⟩
  | _ => exact .inr ⟨rfl, _, rfl⟩

/-- A number below a limit is read as a count below it. -/
theorem natBelow_reads (limit : Nat) (expected : String) :
    (natBelow limit expected).Reads (Json.countBelow? limit) := by
  intro t v
  cases v with
  | number n =>
    cases n with
    | float d => exact .inr ⟨rfl, _, rfl⟩
    | integer n =>
      cases n with
      | negSucc n => exact .inr ⟨rfl, _, rfl⟩
      | ofNat n =>
        by_cases small : n < limit
        · exact .inl ⟨n, by simp [Json.countBelow?, Json.count?, small],
            by simp [natBelow, Written.ofJson, small]⟩
        · exact .inr ⟨by simpa [Json.countBelow?, Json.count?] using small, _,
            by simp [natBelow, Written.ofJson, small]; rfl⟩
  | _ => exact .inr ⟨rfl, _, rfl⟩

theorem nat64_reads : nat64.Reads (Json.countBelow? UInt64.size) := natBelow_reads (1 <<< 64) "u64"

theorem nat16_reads : nat16.Reads (Json.countBelow? UInt16.size) := natBelow_reads (1 <<< 16) "u16"

theorem optional_ofJson (d : Decoder α) (t : Terms) {v : Json} (h : v ≠ .null) :
    optional d t (.ofJson v) = (d t (.ofJson v)).map some := by
  cases v with
  | null => exact absurd rfl h
  | _ => rfl

/-- An optional value is read as null or as its decoder reads it. -/
theorem Reads.optional {d : Decoder α} {read : Json → Option α} (h : d.Reads read) :
    (optional d).Reads (Json.ifAny read) := by
  intro t v
  by_cases null : v = .null
  · subst null
    exact .inl ⟨none, rfl, rfl⟩
  · rw [optional_ofJson d t null, Json.ifAny_of_ne null]
    obtain ⟨a, found, ok⟩ | ⟨found, m, error⟩ := h t v
    · exact .inl ⟨some a, by rw [found]; rfl, by rw [ok]; rfl⟩
    · exact .inr ⟨by rw [found]; rfl, m, by rw [error]; rfl⟩

end Decoder

/-! ## Records -/

@[simp] theorem Field.name_of (name : String) (d : Decoder α) (put : α → ρ → ρ) :
    (Field.of name d put).name = name := rfl

namespace Shape

/-- Takes a member into a draft: a field is read, anything else is passed over. -/
def take (shape : Shape ρ) (t : Terms) (draft : ρ) (member : String × Json) : Except Refusal ρ :=
  match shape.fields.find? (fun f => f.name = member.1) with
  | some field => field.read t (.ofJson member.2) draft
  | none => .ok draft

/-- A member that is a field changes its place of the draft, or does not fit. -/
theorem take_of_find? {shape : Shape ρ} {name : String} {d : Decoder α} {put : α → ρ → ρ}
    (field : shape.fields.find? (fun f => f.name = name) = some (.of name d put))
    {read : Json → Option α} (reads : d.Reads read) (t : Terms) (draft : ρ) (v : Json) :
    (∃ a, read v = some a ∧ shape.take t draft (name, v) = .ok (put a draft)) ∨
      (read v = none ∧ ∃ m, shape.take t draft (name, v) = .error (.mismatch m)) := by
  have taken : shape.take t draft (name, v) = (d t (.ofJson v)).map fun a => put a draft := by
    simp only [take, field]
    rfl
  rw [taken]
  obtain ⟨a, found, ok⟩ | ⟨found, m, error⟩ := reads t v
  · exact .inl ⟨a, found, by rw [ok]; rfl⟩
  · exact .inr ⟨found, m, by rw [error]; rfl⟩

/-- Members with distinct keys, none of them seen before, are taken one after the other. -/
theorem fillMembers_ofMembers {shape : Shape ρ} {t : Terms} (skips : shape.others = .skip)
    {members : List (String × Json)} (distinct : (members.map (·.1)).Nodup) {seen : List String}
    (unseen : ∀ m ∈ members, m.1 ∉ seen) (draft : ρ) :
    shape.fillMembers t (Written.ofMembers members) none seen draft =
      (members.foldlM (shape.take t) draft).map fun draft => (draft, []) := by
  induction members generalizing seen draft with
  | nil => rfl
  | cons m rest ih =>
    obtain ⟨key, value⟩ := m
    simp only [List.map_cons, List.nodup_cons, List.forall_mem_cons] at distinct unseen
    have later : ∀ m ∈ rest, m.1 ∉ key :: seen := fun m hm => by
      have other : m.1 ≠ key := fun e => distinct.1 (e ▸ List.mem_map_of_mem (f := (·.1)) hm)
      simp [other, unseen.2 m hm]
    rw [Written.ofMembers, fillMembers, List.foldlM_cons, take]
    cases shape.fields.find? (fun f => f.name = key) with
    | none => simpa [skips, bind, Except.bind] using ih distinct.2 unseen.2 draft
    | some field =>
      simp only [unseen.1, if_false]
      cases field.read t (.ofJson value) draft with
      | error e => rfl
      | ok draft => exact ih distinct.2 later draft

end Shape

theorem required_eq_ok_iff {name : String} {found : Option α} {a : α} :
    required name found = .ok a ↔ found = some a := by
  cases found <;> simp [required]

end ConformanceGate
