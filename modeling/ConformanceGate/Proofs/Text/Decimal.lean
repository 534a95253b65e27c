import ConformanceGate.Text.Decimal
import Mathlib.Data.List.Basic
import Mathlib.Tactic.IntervalCases

/-!
# Decimal numerals

A numeral without idle zeros and the number it denotes determine each other
(`canonicalNumeral?_eq_some_iff`): the numerals that are accepted are those that are written.
-/

namespace ConformanceGate.Text

theorem isDigit_iff {c : Char} : c.isDigit ↔ '0' ≤ c ∧ c ≤ '9' := by
  simp [Char.isDigit, Char.le_def, UInt32.le_iff_toNat_le]

/-- A numeral is canonical if it has digits only, and no needless zero in front. -/
theorem isCanonical_iff {cs : List Char} :
    isCanonical cs ↔ cs ≠ [] ∧ (∀ c ∈ cs, c.isDigit) ∧ (cs.length = 1 ∨ cs.head? ≠ some '0') := by
  simp [isCanonical, isNumeral, and_assoc]

/-! ## Writing -/

theorem head?_toDigits_ne {n : Nat} (h : n ≠ 0) : (Nat.toDigits 10 n).head? ≠ some '0' := by
  induction n using Nat.strongRecOn with
  | ind n ih =>
    by_cases small : n < 10
    · rw [Nat.toDigits_of_lt_base small]
      interval_cases n <;> simp_all
    · rw [Nat.toDigits_of_base_le (by omega) (by omega),
        List.head?_append_of_ne_nil _ Nat.toDigits_ne_nil]
      exact ih (n / 10) (by omega) (by omega)

theorem isDigit_toDigits (n : Nat) : ∀ c ∈ Nat.toDigits 10 n, c.isDigit := fun _ hc =>
  Nat.isDigit_of_mem_toDigits (by omega) (by omega) hc

/-- The digits of a number are a canonical numeral. -/
theorem isCanonical_toDigits (n : Nat) : isCanonical (Nat.toDigits 10 n) := by
  refine isCanonical_iff.mpr ⟨Nat.toDigits_ne_nil, isDigit_toDigits n, ?_⟩
  by_cases h : n = 0
  · exact .inl (by simp [h, Nat.toDigits_zero])
  · exact .inr (head?_toDigits_ne h)

/-! ## Reading -/

theorem toNat_of_isDigit {c : Char} (h : c.isDigit) : 48 ≤ c.toNat ∧ c.toNat ≤ 57 :=
  isDigit_iff.mp h

theorem toDigits_digit {c : Char} (h : c.isDigit) :
    Nat.toDigits 10 (c.toNat - '0'.toNat) = [c] := by
  obtain ⟨low, high⟩ := toNat_of_isDigit h
  rw [← Char.ofNat_toNat c]
  generalize c.toNat = n at low high
  interval_cases n <;> rfl

/-- Digits after a number other than zero are the further digits of a larger number. -/
theorem toDigits_append {n : Nat} {cs : List Char} (h : 0 < n) (digits : ∀ c ∈ cs, c.isDigit) :
    Nat.toDigits 10 n ++ cs = Nat.toDigits 10 (Nat.ofDigitChars 10 cs n) := by
  induction cs generalizing n with
  | nil => simp
  | cons c cs ih =>
    simp only [List.forall_mem_cons] at digits
    obtain ⟨low, high⟩ := toNat_of_isDigit digits.1
    have small : c.toNat - '0'.toNat < 10 := by simp; omega
    have longer := Nat.toDigits_append_toDigits (by omega) h small
    rw [toDigits_digit digits.1] at longer
    rw [Nat.ofDigitChars_cons, ← ih (by omega) digits.2, ← longer, List.append_assoc,
      List.singleton_append]

/-- A canonical numeral is the one written for its value. -/
theorem toDigits_ofDigitChars {cs : List Char} (h : isCanonical cs) :
    Nat.toDigits 10 (Nat.ofDigitChars 10 cs 0) = cs := by
  obtain ⟨nonempty, digits, zero⟩ := isCanonical_iff.mp h
  cases cs with
  | nil => exact absurd rfl nonempty
  | cons c cs =>
    simp only [List.forall_mem_cons] at digits
    have first := toDigits_digit digits.1
    rw [Nat.ofDigitChars_cons, Nat.mul_zero, Nat.zero_add]
    by_cases pos : 0 < c.toNat - '0'.toNat
    · rw [← toDigits_append pos digits.2, first, List.singleton_append]
    · -- Only a zero has no value, and it stands alone.
      obtain ⟨low, high⟩ := toNat_of_isDigit digits.1
      have eq : c = '0' := Char.toNat_inj.mp (by simp at pos ⊢; omega)
      have alone : cs = [] := by simpa [eq] using zero
      rw [alone, Nat.ofDigitChars_nil, first]

/-- The numerals that are accepted are those that are written. -/
theorem canonicalNumeral?_eq_some_iff {cs : List Char} {n : Nat} :
    canonicalNumeral? cs = some n ↔ cs = n.repr.toList := by
  rw [Nat.toList_repr]
  constructor
  · intro h
    simp only [canonicalNumeral?, Option.ite_none_right_eq_some, Option.some.injEq] at h
    rw [← h.2, toDigits_ofDigitChars h.1]
  · rintro rfl
    simp [canonicalNumeral?, isCanonical_toDigits]

/-- The number of a port is read as it is written. -/
theorem port?_toDigits {n : Nat} (small : n < 65536) :
    port? (Nat.toDigits 10 n) = some n.toUInt16 := by
  have digits := isDigit_toDigits n
  have made : isNumeral (Nat.toDigits 10 n) := by
    have canonical := isCanonical_toDigits n
    simp only [isCanonical, Bool.and_eq_true] at canonical
    exact canonical.1
  have value : Nat.ofDigitChars 10 (Nat.toDigits 10 n) 0 = n := by simp
  unfold port?
  split
  · rename_i ds signed
    have sign := digits '+' (by simp [signed])
    cases sign
  · simp [numeral?, made, value, small]

/-- A port is digits, with a plus sign in front or not. -/
theorem digit_of_port? {cs : List Char} {n : UInt16} (h : port? cs = some n) :
    ∀ c ∈ cs, c = '+' ∨ c.isDigit := by
  have digits {ds : List Char} {m : Nat} (read : numeral? ds = some m) : ∀ c ∈ ds, c.isDigit := by
    simp only [numeral?, isNumeral, Option.ite_none_right_eq_some, Bool.and_eq_true,
      List.all_eq_true] at read
    exact read.1.2
  obtain ⟨m, read, -⟩ := Option.bind_eq_some_iff.mp h
  split at read
  · intro c hc
    rcases List.mem_cons.mp hc with rfl | hc
    · exact .inl rfl
    · exact .inr (digits read c hc)
  · exact fun c hc => .inr (digits read c hc)

theorem colon_notMem_of_port? {cs : List Char} {n : UInt16} (h : port? cs = some n) : ':' ∉ cs := by
  intro colon
  rcases digit_of_port? h _ colon with plus | digit
  · cases plus
  · cases digit

end ConformanceGate.Text
