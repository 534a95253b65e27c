import ConformanceGate.Text.Split
import Mathlib.Data.List.TakeWhile

/-!
# Taking texts apart

The text after a start and the texts around the last separator are found exactly where the whole
text is put together from them.
-/

namespace ConformanceGate.Text

/-- What comes after a start is the rest of the text. -/
theorem after?_eq_some_iff {start cs rest : List Char} :
    after? start cs = some rest ↔ cs = start ++ rest := by
  simp only [after?, List.isPrefixOf_iff_prefix, Option.ite_none_right_eq_some, Option.some.injEq]
  constructor
  · rintro ⟨starts, rfl⟩
    exact (List.prefix_iff_eq_append.mp starts).symm
  · rintro rfl
    exact ⟨List.prefix_append .., List.drop_left⟩

/-- What stands after the last separator is found, whatever stands before it. -/
theorem splitLast?_append {sep : Char} (front : List Char) {last : List Char} (h : sep ∉ last) :
    splitLast? sep (front ++ sep :: last) = some (front, last) := by
  have others : ∀ c ∈ last.reverse, decide (c ≠ sep) = true := by
    intro c hc
    refine decide_eq_true ?_
    rintro rfl
    exact h (List.mem_reverse.mp hc)
  have behind : (front ++ sep :: last).reverse.takeWhile (· ≠ sep) = last.reverse := by
    rw [List.reverse_append, List.reverse_cons, List.append_assoc,
      List.takeWhile_append_of_pos others]
    simp
  have there : sep ∈ front ++ sep :: last := by simp
  simp only [splitLast?, behind, if_pos there, List.reverse_reverse, List.length_reverse]
  have rest : (front ++ sep :: last).length - last.length - 1 = front.length := by
    simp only [List.length_append, List.length_cons]
    omega
  rw [rest, List.take_left]

theorem splitLast?_eq_none_iff {sep : Char} {cs : List Char} :
    splitLast? sep cs = none ↔ sep ∉ cs := by
  simp [splitLast?]

/-- A text is split at the separator that no other one follows. -/
theorem splitLast?_eq_some_iff {sep : Char} {cs front last : List Char} :
    splitLast? sep cs = some (front, last) ↔ cs = front ++ sep :: last ∧ sep ∉ last := by
  constructor
  · intro h
    have there : sep ∈ cs.reverse := by
      rw [List.mem_reverse]
      by_contra absent
      rw [splitLast?_eq_none_iff.mpr absent] at h
      cases h
    -- The first separator from the right is the last one.
    obtain ⟨behind, before, split, apart⟩ := List.eq_append_cons_of_mem there
    have cut : cs = before.reverse ++ sep :: behind.reverse := by
      simpa using congrArg List.reverse split
    have clear : sep ∉ behind.reverse := by simpa using apart
    rw [cut, splitLast?_append _ clear] at h
    obtain ⟨rfl, rfl⟩ := Prod.mk.inj (Option.some.inj h)
    exact ⟨cut, clear⟩
  · rintro ⟨rfl, clear⟩
    exact splitLast?_append front clear

end ConformanceGate.Text
