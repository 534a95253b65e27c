import ConformanceGate.Path.Basic
import Mathlib.Tactic.SplitIfs

/-!
# Where paths lead

A path leads somewhere from a current directory. A path that was joined to a base leads from the
current directory to where the path alone leads from the base (`Path.location_join`).
-/

namespace ConformanceGate.Path

/-- The pieces of a path that are neither empty nor a dot. Steps upwards are among them. -/
def steps (p : String) : List String :=
  (pieces p).filter fun piece => !piece.isEmpty && piece != "."

theorem filter_parts (p : String) : (parts p).filter (· ≠ ".") = steps p := by
  have each (l : List String) (n : Nat) :
      (((l.zipIdx n).filter fun m => isPart m.2 m.1).map (·.1)).filter (· ≠ ".") =
        l.filter fun piece => !piece.isEmpty && piece != "." := by
    induction l generalizing n with
    | nil => rfl
    | cons piece rest ih =>
      have later := ih (n + 1)
      by_cases dot : piece = "."
      · by_cases first : n = 0 <;>
          simp_all [List.zipIdx_cons, isPart]
      · by_cases empty : piece.isEmpty <;>
          simp_all [List.zipIdx_cons, isPart]
  exact each (pieces p) 0

theorem pieces_slash (p q : String) : pieces (p ++ "/" ++ q) = pieces p ++ pieces q := by
  have slash : ('/' == '/') = true := rfl
  have split := List.splitOnP_append_cons p.toList q.toList (p := (· == '/')) slash
  simp [pieces, List.splitOn, split]

theorem steps_slash (p q : String) : steps (p ++ "/" ++ q) = steps p ++ steps q := by
  rw [steps, pieces_slash, List.filter_append]
  rfl

@[simp] theorem steps_empty : steps "" = [] := by
  simp [steps, pieces]

/-- The steps of a relative path that was joined come after those of the base. -/
theorem steps_join (base : String) {p : String} (relative : isAbsolute p = false) :
    steps (join base p) = steps base ++ steps p := by
  rw [join, relative]
  simp only [Bool.false_eq_true, if_false]
  split_ifs with closed
  · rcases Bool.or_eq_true_iff.mp closed with empty | slash
    · obtain rfl : base = "" := by simpa using empty
      simp
    · -- A slash at the end of the base takes the place of the one between both.
      obtain ⟨front, rfl⟩ : ∃ front, base = front ++ "/" := by
        obtain ⟨front, split⟩ := List.getLast?_eq_some_iff.mp (by simpa using slash)
        exact ⟨String.ofList front, String.toList_inj.mp (by simpa using split)⟩
      have alone := steps_slash front ""
      rw [steps_slash, ← String.append_empty (s := front ++ "/"), alone]
      simp
  · exact steps_slash base p

theorem isAbsolute_append {p : String} (nonempty : p ≠ "") (q : String) :
    isAbsolute (p ++ q) = isAbsolute p := by
  obtain ⟨c, cs, split⟩ := List.exists_cons_of_ne_nil (by simpa using nonempty : p.toList ≠ [])
  simp [isAbsolute, split]

/-- A joined path is absolute if one of its parts is. -/
theorem isAbsolute_join (base p : String) :
    isAbsolute (join base p) = (isAbsolute p || isAbsolute base) := by
  unfold join
  cases absolute : isAbsolute p with
  | true => simp [absolute]
  | false =>
    by_cases empty : base = ""
    · subst empty
      have none : isAbsolute "" = false := rfl
      simp [absolute, none]
    · have slashed : isAbsolute (base ++ "/" ++ p) = isAbsolute base := by
        rw [String.append_assoc, isAbsolute_append empty]
      simp only [Bool.false_eq_true, if_false, Bool.false_or]
      split_ifs
      · exact isAbsolute_append empty p
      · exact slashed

/-- Where a path leads from a current directory. -/
def location (cwd : List String) (p : String) : List String := (absolute cwd p).parts

/-- An absolute path leads along its own steps, any other one along those of the directory first. -/
theorem location_eq (cwd : List String) (p : String) :
    location cwd p = if isAbsolute p then steps p else cwd ++ steps p := by
  rw [location, absolute, filter_parts]
  split_ifs <;> rfl

/-- A path that was joined leads to where it leads alone from the base. -/
theorem location_join (cwd : List String) (base p : String) :
    location cwd (join base p) = location (location cwd base) p := by
  cases absolute : isAbsolute p with
  | true => simp [join, location_eq, absolute]
  | false =>
    rw [location_eq, location_eq, location_eq, isAbsolute_join, absolute, steps_join base absolute]
    cases isAbsolute base <;> simp

end ConformanceGate.Path
