import ConformanceGate.Comparison.Diff
import ConformanceGate.Comparison.Normal
import ConformanceGate.Results.Document

/-!
# The verdict on fresh results

Fresh results pass if their normal form equals that of the baseline. They cannot be judged if a side
does not have the form of results, or if an implementation of the baseline has no fresh results.
-/

namespace ConformanceGate

/-- The outcome of a comparison. -/
inductive Verdict
  | agrees
  | differs (diff : Diff)

namespace Verdict

def isMatch : Verdict → Bool
  | .agrees => true
  | .differs _ => false

def accept : Verdict → Except Failure Unit
  | .agrees => .ok ()
  | .differs diff => .error (.regression diff.text)

def toJson : Verdict → Json
  | .agrees => .object [("result", .string "match")]
  | .differs diff => .object [("result", .string "mismatch"), ("diff", diff.toJson)]

end Verdict

namespace Policy

/-- The document has the form of results; `origin` names it in failures. -/
def checkForm (origin : String) (v : Json) : Except Failure Unit :=
  match Results.irregularity? v with
  | none => .ok ()
  | some cause => .error (.irregular origin cause)

/-- The first implementation of the baseline that has no fresh results. -/
def missingAgent? (baseline fresh : Json) : Option String :=
  ((baseline.members?.getD []).find? fun agent =>
    (Keyed.lookup agent.1 (fresh.members?.getD [])).isNone).map (·.1)

/-- Compares two documents of the right form. -/
def judge (p : Policy) (baseline fresh : Json) : Verdict :=
  let left := p.normalize baseline
  let right := p.normalize fresh
  if left.same right then .agrees else .differs (.between left right)

/-- Compares fresh results with a baseline; the origins name the documents in failures. -/
def verify (p : Policy) (baselineOrigin : String) (baseline : Json) (freshOrigin : String)
    (fresh : Json) : Except Failure Verdict := do
  checkForm baselineOrigin baseline
  checkForm freshOrigin fresh
  match missingAgent? baseline fresh with
  | some name => .error (.irregular freshOrigin (.missingAgent name))
  | none => .ok (p.judge baseline fresh)

end Policy
end ConformanceGate
