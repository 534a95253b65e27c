import ConformanceGate.CaseId.Basic
import Mathlib.Order.Defs.Unbundled

/-!
# The order of identifiers

Identifiers are in a strict total order, that of their numbers from the left.
-/

namespace ConformanceGate.CaseId

theorem segments_injective : Function.Injective segments := fun a b h => by
  cases a
  cases b
  congr

instance : @Std.Irrefl CaseId (· < ·) := ⟨fun a => List.lt_irrefl a.segments⟩

instance : @Trans CaseId CaseId CaseId (· < ·) (· < ·) (· < ·) := ⟨fun h h' => List.lt_trans h h'⟩

instance : @Std.Trichotomous CaseId (· < ·) :=
  have numbers : @Std.Trichotomous (List UInt32) (· < ·) := inferInstance
  ⟨fun a b h h' => segments_injective (numbers.trichotomous a.segments b.segments h h')⟩

end ConformanceGate.CaseId
