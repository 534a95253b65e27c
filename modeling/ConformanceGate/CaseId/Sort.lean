import ConformanceGate.CaseId.Basic

/-!
# The order of case keys

The keys of a results file are meant to be case identifiers, but any text may stand there. Keys that
are identifiers come first, in the order of the identifiers; the others follow by code point.
-/

namespace ConformanceGate.CaseId

def compareKeys (a b : String) : Ordering :=
  match parse? a, parse? b with
  | some x, some y => x.compare y
  | some _, none => .lt
  | none, some _ => .gt
  | none, none => Ord.compare a b

/-- The keys in order; equal keys keep their places. -/
def sortKeys (keys : List String) : List String :=
  keys.mergeSort fun a b => (compareKeys a b).isLE

end ConformanceGate.CaseId
