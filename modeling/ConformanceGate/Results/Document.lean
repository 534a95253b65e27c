import ConformanceGate.Failure
import ConformanceGate.Results.TestCase

/-!
# Results documents

A results document maps implementations to case keys to records. `Results.irregularity?` tells
whether a value has that form; `Results.ofJson` further reads every key as a case identifier and
every record, and names the first one that it cannot read, in the order of the keys.
-/

namespace ConformanceGate

/-- The results of a run: the cases of every implementation, both in order. -/
structure Results where
  agents : List (String × List (CaseId × TestCase))
deriving DecidableEq

namespace Results

/-- The first departure from the form of implementations, cases and records. -/
def irregularity? (v : Json) : Option Irregularity :=
  match v.members? with
  | none => some .document
  | some agents => agents.findSome? fun (name, cases) =>
    match cases.members? with
    | none => some (.agent name)
    | some cases => cases.findSome? fun (key, record) =>
      if record.members?.isSome then none else some (.case name key)

/-- Reads one case of an implementation: first its key, then its record. -/
def readCase (agent : String) (entry : String × Json) : Except Irregularity (CaseId × TestCase) :=
  match CaseId.parse? entry.1 with
  | none => .error (.caseId agent entry.1)
  | some id =>
    match TestCase.decode .json (.ofJson entry.2) with
    | .ok c => .ok (id, c)
    | .error (.mismatch m) => .error (.record agent entry.1 m)
    | .error (.fault _) => .error (.case agent entry.1)

def readAgent (entry : String × Json) :
    Except Irregularity (String × List (CaseId × TestCase)) := do
  let cases ← (entry.2.members?.getD []).mapM (readCase entry.1)
  return (entry.1, Keyed.collect cases)

def ofJson (v : Json) : Except Irregularity Results :=
  match irregularity? v with
  | some cause => .error cause
  | none => do
    let agents ← (v.members?.getD []).mapM readAgent
    return ⟨agents⟩

def agent? (r : Results) (name : String) : Option (List (CaseId × TestCase)) :=
  Keyed.lookup name r.agents

/-- The document as a value; the cases of an implementation stand in the order of their
identifiers. -/
def toJson (r : Results) : Json :=
  .object (r.agents.map fun (name, cases) =>
    (name, .object (cases.map fun (id, c) => (id.text, .object c.toMembers))))

end Results
end ConformanceGate
