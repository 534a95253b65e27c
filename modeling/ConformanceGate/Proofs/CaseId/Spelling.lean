import ConformanceGate.CaseId.Basic
import ConformanceGate.Proofs.Except
import ConformanceGate.Proofs.Text.Decimal

/-!
# The spelling of identifiers

Identifiers and their texts determine each other: the texts that are read as identifiers are those
that are written for them (`CaseId.parse?_eq_some_iff`), and a text is refused exactly for one of
its parts between the dots (`CaseId.parse?_eq_none_iff`).
-/

namespace ConformanceGate.CaseId

/-- Why a text between two dots is no number of an identifier. -/
inductive Refused : List Char → Prop
  /-- Nothing stands there. -/
  | empty : Refused []
  /-- Something stands there that is no ASCII digit: a sign, a blank, a digit of another script. -/
  | foreign {cs : List Char} {c : Char} : c ∈ cs → ¬ ('0' ≤ c ∧ c ≤ '9') → Refused cs
  /-- A zero stands in front of other digits. -/
  | idleZero {cs : List Char} : cs ≠ [] → Refused ('0' :: cs)
  /-- The number does not fit 32 bits. -/
  | tooLarge {cs : List Char} : 4294967295 < Nat.ofDigitChars 10 cs 0 → Refused cs

/-! ## One number -/

/-- A number is read from its decimal numeral and from nothing else. -/
theorem segment?_eq_some_iff {cs : List Char} {n : UInt32} :
    segment? cs = some n ↔ cs = n.toNat.repr.toList := by
  simp only [segment?, Option.bind_eq_bind, Option.bind_eq_some_iff,
    Text.canonicalNumeral?_eq_some_iff, Option.ite_none_right_eq_some, Option.some.injEq]
  constructor
  · rintro ⟨m, rfl, small, rfl⟩
    rw [Nat.toUInt32_eq, UInt32.toNat_ofNat_of_lt' small]
  · rintro rfl
    exact ⟨n.toNat, rfl, n.toNat_lt, by simp⟩

theorem refused_of_not_isCanonical {cs : List Char} (h : ¬ Text.isCanonical cs) : Refused cs := by
  rw [Text.isCanonical_iff] at h
  by_cases foreign : ∃ c ∈ cs, ¬ c.isDigit
  · obtain ⟨c, hc, hd⟩ := foreign
    exact .foreign hc fun digit => hd (Text.isDigit_iff.mpr digit)
  · cases cs with
    | nil => exact .empty
    | cons c cs =>
      obtain ⟨rfl, more⟩ : c = '0' ∧ cs ≠ [] := by
        push Not at foreign
        simpa [foreign, and_comm] using fun h' => h ⟨by simp, foreign, h'⟩
      exact .idleZero more

/-- A part is refused for one of the reasons that there are, and only for these. -/
theorem segment?_eq_none_iff {cs : List Char} : segment? cs = none ↔ Refused cs := by
  constructor
  · intro none
    by_cases h : Text.isCanonical cs
    · refine .tooLarge (Nat.lt_of_not_le fun small => ?_)
      simp [segment?, Text.canonicalNumeral?, h] at none
      omega
    · exact refused_of_not_isCanonical h
  · intro refused
    refine Option.eq_none_iff_forall_ne_some.mpr fun n some => ?_
    rw [segment?_eq_some_iff, Nat.toList_repr] at some
    subst some
    obtain ⟨nonempty, digits, zero⟩ := Text.isCanonical_iff.mp (Text.isCanonical_toDigits n.toNat)
    generalize hcs : Nat.toDigits 10 n.toNat = cs at *
    cases refused with
    | empty => exact nonempty rfl
    | foreign hc hd => exact hd (Text.isDigit_iff.mp (digits _ hc))
    | idleZero more => simp [more] at zero
    | tooLarge large =>
      have := n.toNat_lt
      rw [← hcs, Nat.ofDigitChars_ten_toDigits] at large
      omega

/-! ## Identifiers -/

/-- An identifier is read from a text if its numbers are read from the parts between the dots. -/
theorem parse?_eq_some_iff_forall₂ {s : String} {id : CaseId} :
    parse? s = some id ↔
      List.Forall₂ (fun part n => segment? part = some n) (s.toList.splitOn '.') id.segments := by
  rw [← Option.mapM_eq_some, parse?, Option.bind_eq_bind, Option.bind_eq_some_iff]
  constructor
  · rintro ⟨segments, found, h⟩
    split at h
    · cases h
      exact found
    · cases h
  · intro found
    exact ⟨id.segments, found, by simp [id.ne_nil]⟩

theorem dot_notMem_repr (n : Nat) : '.' ∉ n.repr.toList := by
  intro h
  rw [Nat.toList_repr] at h
  exact absurd (Nat.isDigit_of_mem_toDigits (by omega) (by omega) h) (by decide)

theorem toList_text (id : CaseId) :
    id.text.toList = ['.'].intercalate (id.segments.map fun n => n.toNat.repr.toList) := by
  simp [text, toChars]

/-- An identifier is read from its text and from no other one. -/
theorem parse?_eq_some_iff {s : String} {id : CaseId} : parse? s = some id ↔ s = id.text := by
  rw [parse?_eq_some_iff_forall₂, ← String.toList_inj, toList_text]
  simp only [segment?_eq_some_iff]
  rw [← List.forall₂_map_right_iff, List.forall₂_eq_eq_eq]
  constructor
  · intro parts
    rw [← parts, List.intercalate_splitOn]
  · intro joined
    rw [joined, List.splitOn_intercalate]
    · simp only [List.forall_mem_map]
      exact fun n _ => dot_notMem_repr n.toNat
    · simpa using id.ne_nil

/-- No two identifiers have one text. -/
theorem text_injective : Function.Injective text := by
  intro a b same
  have first : parse? a.text = some a := parse?_eq_some_iff.mpr rfl
  have second : parse? a.text = some b := parse?_eq_some_iff.mpr same
  exact Option.some.inj (first.symm.trans second)

/-- A text is no identifier exactly if one of its parts is refused. -/
theorem parse?_eq_none_iff {s : String} :
    parse? s = none ↔ ∃ part ∈ s.toList.splitOn '.', Refused part := by
  simp only [← segment?_eq_none_iff, ← Option.mapM_eq_none]
  rw [parse?, Option.bind_eq_bind, Option.bind_eq_none_iff]
  constructor
  · intro h
    refine Option.eq_none_iff_forall_ne_some.mpr fun segments found => ?_
    -- A text has at least one part, so an identifier has at least one number.
    have nonempty : segments ≠ [] := by
      rintro rfl
      have := Option.mapM_eq_some.mp found
      simp [List.splitOn_ne_nil] at this
    simpa [nonempty] using h segments found
  · intro h segments found
    simp [h] at found

/-- The text of an identifier is its numbers in decimal, joined by dots. -/
theorem text_eq (id : CaseId) : id.text = ".".intercalate (id.segments.map toString) := by
  rw [← String.toList_inj, toList_text, String.toList_intercalate, List.map_map]
  rfl

/-- A text is read as a list of numbers exactly if there is at least one and the text is the numbers
in plain decimal, joined by single dots. So reading and writing undo each other, a text is refused
exactly for a part that is no plain 32-bit number, and no two texts are read alike. -/
theorem parse?_exact (s : String) :
    (∀ segments : List UInt32, (parse? s).map (·.segments) = some segments ↔
      segments ≠ [] ∧ s = ".".intercalate (segments.map toString)) ∧
    (∀ id : CaseId, parse? s = some id → id.text = s) ∧
    (∀ id : CaseId, parse? id.text = some id) ∧
    (parse? s = none ↔ ∃ part ∈ s.toList.splitOn '.', Refused part) ∧
    (∀ other id, parse? s = some id → parse? other = some id → s = other) := by
  refine ⟨fun segments => ?_, fun id found => (parse?_eq_some_iff.mp found).symm,
    fun id => parse?_eq_some_iff.mpr rfl, parse?_eq_none_iff, fun other id found found' => ?_⟩
  · rw [Option.map_eq_some_iff]
    constructor
    · rintro ⟨id, found, rfl⟩
      exact ⟨id.ne_nil, (parse?_eq_some_iff.mp found).trans id.text_eq⟩
    · rintro ⟨nonempty, rfl⟩
      exact ⟨⟨segments, nonempty⟩, parse?_eq_some_iff.mpr (text_eq ⟨segments, nonempty⟩).symm,
        rfl⟩
  · exact (parse?_eq_some_iff.mp found).trans (parse?_eq_some_iff.mp found').symm

/-- Three numbers, one of them zero and one the largest there is. -/
theorem parse?_exact_sample :
    (parse? "0.10.4294967295").map (·.segments) = some [0, 10, 4294967295] ∧
      parse? "0.10.4294967296" = none ∧ parse? "1.01.1" = none := by
  refine ⟨((parse?_exact _).1 _).mpr (by decide +kernel), (parse?_exact _).2.2.2.1.mpr ?_,
    (parse?_exact _).2.2.2.1.mpr ?_⟩
  · exact ⟨"4294967296".toList, by decide +kernel, .tooLarge (by decide +kernel)⟩
  · exact ⟨"01".toList, by decide +kernel, .idleZero (List.cons_ne_nil '1' [])⟩

end ConformanceGate.CaseId
